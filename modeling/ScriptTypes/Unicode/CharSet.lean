/-!
Sets of characters as sorted lists of closed intervals of scalar values, and the compact text
in which the tables of this library write them.
-/

namespace ScriptTypes.Unicode

def lastScalar : Nat := 0x10ffff

/-- The scalar value before `n`; the surrogate gap counts as one step. -/
def scalarBefore (n : Nat) : Nat := if n = 0xe000 then 0xd7ff else n - 1

def scalarAfter (n : Nat) : Nat := if n = 0xd7ff then 0xe000 else n + 1

/-- Unions give the one form in which the intervals are sorted and do not touch. A negation may
leave intervals that do. -/
structure CharSet where
  ranges : List (Nat × Nat)
  deriving DecidableEq, Inhabited

namespace CharSet

def empty : CharSet := ⟨[]⟩

def full : CharSet := ⟨[(0, lastScalar)]⟩

def hasCode (s : CharSet) (n : Nat) : Bool := s.ranges.any fun r => r.1 ≤ n && n ≤ r.2

def contains (s : CharSet) (c : Char) : Bool := s.hasCode c.toNat

def join : List (Nat × Nat) → List (Nat × Nat)
  | [] => []
  | r :: rest => grow r rest
where
  grow (r : Nat × Nat) : List (Nat × Nat) → List (Nat × Nat)
    | [] => [r]
    | next :: rest =>
      if next.1 ≤ r.2 + 1 then grow (r.1, max r.2 next.2) rest else r :: grow next rest

def place (r : Nat × Nat) : List (Nat × Nat) → List (Nat × Nat)
  | [] => [r]
  | next :: rest => if r.1 ≤ next.1 then r :: next :: rest else next :: place r rest

def ofRanges (ranges : List (Nat × Nat)) : CharSet := ⟨join (ranges.foldr place [])⟩

def ofCodes (codes : List Nat) : CharSet := ofRanges (codes.map fun n => (n, n))

def singleton (c : Char) : CharSet := ⟨[(c.toNat, c.toNat)]⟩

def union (s t : CharSet) : CharSet :=
  if t.ranges.isEmpty || s = t then s else ofRanges (s.ranges ++ t.ranges)

def interval (a b : Nat) : Nat × Nat := (min a b, max a b)

/-- What is left behind an interval by the sorted ones that follow it. If only the surrogates stand
between two, the ends change places and the interval has one character of each. -/
def gapsBehind (r : Nat × Nat) : List (Nat × Nat) → List (Nat × Nat)
  | [] => if r.2 < lastScalar then [interval (scalarAfter r.2) lastScalar] else []
  | next :: rest => interval (scalarAfter r.2) (scalarBefore next.1) :: gapsBehind next rest

def complement (s : CharSet) : CharSet :=
  match s.ranges with
  | [] => full
  | r :: rest =>
    let below := if 0 < r.1 then [interval 0 (scalarBefore r.1)] else []
    ⟨below ++ gapsBehind r rest⟩

def meet : List (Nat × Nat) → List (Nat × Nat) → List (Nat × Nat)
  | [], _ => []
  | _, [] => []
  | a :: as, b :: bs =>
    let low := max a.1 b.1
    let high := min a.2 b.2
    let common := if low ≤ high then [(low, high)] else []
    common ++ if a.2 < b.2 then meet as (b :: bs) else meet (a :: as) bs
termination_by as bs => as.length + bs.length

def cut : List (Nat × Nat) → List (Nat × Nat) → List (Nat × Nat)
  | [], _ => []
  | as, [] => as
  | a :: as, b :: bs =>
    if b.2 < a.1 then cut (a :: as) bs
    else if a.2 < b.1 then a :: cut as (b :: bs)
    else
      let below := if a.1 < b.1 then [(a.1, scalarBefore b.1)] else []
      below ++ if b.2 < a.2 then cut ((scalarAfter b.2, a.2) :: as) bs else cut as (b :: bs)
termination_by as bs => as.length + bs.length

def inter (s t : CharSet) : CharSet := ⟨meet s.ranges t.ranges⟩

def diff (s t : CharSet) : CharSet := ⟨cut s.ranges t.ranges⟩

def symmDiff (s t : CharSet) : CharSet := (s.union t).diff (s.inter t)

def isAscii (s : CharSet) : Bool := s.ranges.all fun r => r.2 < 0x80

def single? (s : CharSet) : Option Char :=
  match s.ranges with
  | [(lo, hi)] => if lo = hi && lo.isValidChar then some (Char.ofNat lo) else none
  | _ => none

end CharSet

def nibble (c : Char) : Nat := if 'a' ≤ c then c.toNat - 87 else c.toNat - 48

def entries (text : String) : List (List Nat) := read none [] text.toList
where
  read (number : Option Nat) (entry : List Nat) : List Char → List (List Nat)
    | [] => finish number entry
    | c :: rest =>
      if c = ' ' || c = '\n' then finish number entry ++ read none [] rest
      else if c = '.' then read none (number.toList ++ entry) rest
      else read (some (16 * number.getD 0 + nibble c)) entry rest
  finish (number : Option Nat) (entry : List Nat) : List (List Nat) :=
    match number with
    | none => []
    | some n => [(n :: entry).reverse]

/-- The set that a table text stands for. Each entry is the distance from the end of the
interval before it and, if the interval has more than one member, its length less one. -/
def CharSet.ofTable (text : String) : CharSet := ⟨place 0 (entries text)⟩
where
  place (next : Nat) : List (List Nat) → List (Nat × Nat)
    | [] => []
    | entry :: rest =>
      let low := next + entry.headD 0
      let high := low + (entry.drop 1).headD 0
      (low, high) :: place (high + 1) rest

end ScriptTypes.Unicode
