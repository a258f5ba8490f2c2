import CheckedBuild.Archive.Deflate.Token

/-!
# Finding copies

A position is linked to the last one before it whose next three bytes have the same hash. The
search for a copy follows these links for a while and keeps the longest copy it meets. The search
is a matter of effort only: a token says itself what it stands for.
-/

namespace CheckedBuild.Deflate

/-- How hard to look for copies. -/
structure Effort where
  /-- How many groups of links are followed to beat a short copy. -/
  groups : Nat
  /-- How many groups of links are followed to beat a long copy. -/
  groupsIfLong : Nat
  /-- The least length of a long copy. -/
  long : Nat
  /-- A copy of this length is taken before the next position is looked at. -/
  contentWith : Nat
  /-- From this distance on a copy of the least length is not worth its bits. -/
  far : Nat
deriving Repr

/-- The strongest effort. -/
def Effort.strongest : Effort := ⟨256, 64, 32, 128, 8192⟩

/-- How many links are followed before a group is used up. -/
def groupSize : Nat := 3

/-- Links are kept modulo this number; the link 0 stands for none. -/
def linkModulus : Nat := 65536

/-- How many hashes there are. -/
def hashCount : Nat := 32768

/-- The hash of three bytes. -/
def hash (a b c : UInt8) : Nat :=
  ((a.toNat <<< 10) ^^^ (b.toNat <<< 5) ^^^ c.toNat) % hashCount

/-- Links the positions from `position` on; `heads` holds the last position of each hash. -/
def linkFrom (position : Nat) (heads links : Array Nat) : Bytes → Array Nat
  | a :: b :: c :: rest =>
    let h := hash a b c
    let links := links.push (heads.getD h 0)
    linkFrom (position + 1) (heads.setIfInBounds h (position % linkModulus)) links
      (b :: c :: rest)
  | _ => links

/-- Bytes with their links. -/
structure Linked where
  bytes : Array UInt8
  links : Array Nat

/-- Links bytes. -/
def Linked.ofBytes (bytes : Bytes) : Linked :=
  ⟨bytes.toArray, linkFrom 0 (Array.replicate hashCount 0) #[] bytes⟩

/-- A candidate for a copy; one without a distance is none. -/
structure Candidate where
  length : Nat
  distance : Nat
deriving DecidableEq, Repr

/-- A search for a copy at a position. -/
structure Search where
  linked : Linked
  position : Nat
  /-- How far back a copy may reach. -/
  reach : Nat
  /-- How long a copy may be. -/
  most : Nat

namespace Search

/-- The byte at a position. -/
def byte (search : Search) (i : Nat) : UInt8 := search.linked.bytes.getD i 0

/-- How many bytes from two positions on agree, up to a limit. -/
def agreement (search : Search) (limit i j : Nat) : Nat :=
  match limit with
  | 0 => 0
  | more + 1 =>
    if search.byte i = search.byte j then 1 + search.agreement more (i + 1) (j + 1) else 0

/-- Where following some links leads. -/
inductive Outcome where
  /-- There are no more links. -/
  | ended
  /-- A place that may hold a longer copy. -/
  | promising (distance : Nat)
  /-- All links of the group are followed. -/
  | reached (place : Nat)

/-- Follows at most `count` links from a place until the two bytes at the end of a copy longer by
one than `length` would agree. -/
def follow (search : Search) (length count place : Nat) : Outcome :=
  match count with
  | 0 => .reached place
  | more + 1 =>
    let link := search.linked.links.getD place 0
    let distance := (search.position + linkModulus - link) % linkModulus
    if link = 0 ∨ search.reach < distance then .ended
    else
      let next := search.position - distance
      if search.byte (next + length - 1) = search.byte (search.position + length - 1)
          ∧ search.byte (next + length) = search.byte (search.position + length) then
        .promising distance
      else search.follow length more next

/-- The best candidate among those that `groups` groups of links lead to and `best`. -/
def improve (search : Search) (groups place : Nat) (best : Candidate) : Candidate :=
  match groups with
  | 0 => best
  | groups + 1 =>
    match search.follow best.length groupSize place with
    | .ended => best
    | .reached place => search.improve groups place best
    | .promising distance =>
      let next := search.position - distance
      let length := search.agreement search.most next search.position
      if distance = 0 then best
      else if best.length < length then
        if length = search.most then ⟨length, distance⟩
        else search.improve groups next ⟨length, distance⟩
      else search.improve groups next best

/-- The best candidate that is longer than `length`, or `length` without a distance. -/
def best (search : Search) (effort : Effort) (length : Nat) : Candidate :=
  if search.most ≤ length then ⟨length, 0⟩
  else
    search.improve (if length < effort.long then effort.groups else effort.groupsIfLong)
      search.position ⟨length, 0⟩

end Search

end CheckedBuild.Deflate
