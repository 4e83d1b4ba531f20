/-!
# Powers, entries and scripts

What the other modules build on: the powers that bound numbers with a given number of digits, lists
of entries in the order of their keys, and scripts, which say what happens at each of a number of
occasions.
-/

namespace StorageBackend

/-! ## Powers -/

/-- The power of two with an exponent: there are so many numbers with `n` bits. -/
def twoTo (n : Nat) : Nat := Nat.pow 2 n

/-- The power of ten with an exponent: there are so many numbers with at most `n` digits. -/
def tenTo (n : Nat) : Nat := Nat.pow 10 n

/-! ## Entries in key order

An association list that is kept in the order of its keys, with at most one entry for a key. Keys
are compared by their code points, which is also the order of their UTF-8 bytes. -/

/-- Entries in increasing order of their keys. -/
abbrev Entries (α : Type) := List (String × α)

namespace Entries

/-- Adds an entry; one with the same key is replaced. -/
def insert (entries : Entries α) (key : String) (value : α) : Entries α :=
  match entries with
  | [] => [(key, value)]
  | (k, v) :: rest =>
    if key < k then (key, value) :: (k, v) :: rest
    else if key = k then (key, value) :: rest
    else (k, v) :: insert rest key value

/-- The value stored under a key. -/
def find? (entries : Entries α) (key : String) : Option α :=
  match entries with
  | [] => none
  | (k, v) :: rest => if k = key then some v else find? rest key

/-- The entries of a list of pairs; the last pair with a key wins. -/
def ofList (pairs : List (String × α)) : Entries α :=
  pairs.foldl (fun entries (key, value) => insert entries key value) []

end Entries

/-! ## Scripts

A scene is played as often as its count says, so a long script can be written down shortly. -/

/-- Scenes, each with the number of times that it is played. -/
abbrev Script (α : Type) := List (Nat × α)

namespace Script

/-- The next scene and the script after it. -/
def next? : Script α → Option (α × Script α)
  | [] => none
  | (0, _) :: rest => next? rest
  | (count + 1, scene) :: rest => some (scene, (count, scene) :: rest)

/-- How many scenes are played. -/
def length (script : Script α) : Nat := script.foldl (fun n scene => n + scene.1) 0

end Script

end StorageBackend
