import Dashwright.Value.Arith

/-!
Stable sorting with a comparison that may fail, making the same comparisons in the same order
as an adaptive natural merge sort. When two items cannot be compared, the failure is the one
met first in that order; when the comparison is not a consistent order (a NaN compares false
with everything), the result is the one that order of comparisons gives.

The items are cut into runs from left to right: the longest ascending prefix, or the longest
strictly descending one (reversed), extended by binary insertion to a minimum length chosen so
that the number of runs is close to a power of two (all of a list shorter than 64 items is one
run). Each run is pushed on a stack with its power: the depth of the boundary between it and
the next run in a balanced merge tree over the whole list. Before a run is pushed, runs below
the top whose power is greater than the top's are merged into it; at the end the stack is
merged from the top, the smaller of the neighbours first.

A merge skips the items of the first run that precede the second run's first item, and the
items of the second run that follow the first run's last item. The rest is merged through a
copy of the shorter run. Items are taken one at a time until one run has won seven times (a
threshold that adapts to the data) in a row; then each run is searched by galloping (probing
at distances 1, 3, 7, ... and finishing by binary search) for how many of its items go next,
until neither run wins seven in a row again.
-/

namespace Dashwright.Value

section

variable {α : Type} [Inhabited α]

def itemAt (a : Array α) (i : Nat) : α := a.getD i default

/-- Reverses the items in positions `lo` up to `hi`. -/
def reverseRange (a : Array α) (lo hi : Nat) : Array α := Id.run do
  let mut out := a
  for i in [0:hi - lo] do
    out := out.set! (lo + i) (itemAt a (hi - 1 - i))
  return out

/-- The length of the run at `lo` before `hi`, and whether it is strictly descending: the
longest strictly descending prefix when the second item precedes the first, else the longest
ascending one. -/
def countRun (lt : α → α → Outcome Bool) (a : Array α) (lo hi : Nat) : Outcome (Nat × Bool) := do
  if lo + 1 ≥ hi then return (1, false)
  let descending ← lt (itemAt a (lo + 1)) (itemAt a lo)
  let mut n := 2
  for i in [lo + 2:hi] do
    let smaller ← lt (itemAt a i) (itemAt a (i - 1))
    if smaller != descending then break
    n := n + 1
  pure (n, descending)

/-- Where `pivot` goes among the sorted items before position `s`: after every item it does not
precede, found by binary search. -/
def insertionPoint (lt : α → α → Outcome Bool) (run : Array α) (pivot : α) (s : Nat) :
    Outcome Nat := do
  let mut l := 0
  let mut r := s
  for _ in [0:64] do
    if l ≥ r then break
    let p := l + (r - l) / 2
    if ← lt pivot (itemAt run p) then r := p else l := p + 1
  pure l

/-- Puts the items of `run` in the positions from `lo` on. -/
def overwrite (a : Array α) (lo : Nat) (run : Array α) : Array α := Id.run do
  let mut out := a
  for i in [0:run.size] do
    out := out.set! (lo + i) (itemAt run i)
  return out

/-- Sorts the items in positions `lo` up to `hi` by binary insertion, those before `start`
being sorted already. Each item goes after the items it does not precede, so equal items
keep their order. -/
def binaryInsertion (lt : α → α → Outcome Bool) (a : Array α) (lo hi start : Nat) :
    Outcome (Array α) := do
  let mut run := a.extract lo hi
  let first := if start == lo then 1 else start - lo
  for s in [first:run.size] do
    let pivot := itemAt run s
    let l ← insertionPoint lt run pivot s
    run := (run.extract 0 l).push pivot ++ run.extract l s ++ run.extract (s + 1) run.size
  pure (overwrite a lo run)

/-- The shortest run worth merging for a list of a length: the length itself below 64, else
its leading six bits, plus one when any bit below them is set. -/
def minRun (n : Nat) : Nat := Id.run do
  let mut n := n
  let mut r := 0
  for _ in [0:64] do
    if n < 64 then break
    r := r ||| (n % 2)
    n := n / 2
  return n + r

/-- The power of the boundary between a run at `s1` of length `n1` and the run of length
`n2` after it, in a list of length `n`: the first bit at which the binary fractions of the two
runs' midpoints, as parts of the list, differ. -/
def runPower (s1 n1 n2 n : Nat) : Nat := Id.run do
  let mut a := 2 * s1 + n1
  let mut b := a + n1 + n2
  let mut result := 0
  for _ in [0:128] do
    result := result + 1
    if a ≥ n then
      a := a - n
      b := b - n
    else if b ≥ n then break
    a := 2 * a
    b := 2 * b
  return result

/-- Where `key` goes among the `n` sorted items from `base`, before any equal to it: searched
from the item at `hint` by galloping, then by binary search. -/
def gallopLeft (lt : α → α → Outcome Bool) (key : α) (a : Array α) (base n hint : Nat) :
    Outcome Nat := do
  let elem (i : Nat) : α := itemAt a (base + i)
  let mut lastofs := 0
  let mut ofs := 1
  let mut lo : Int := 0
  let mut hi := 0
  if ← lt (elem hint) key then
    let maxofs := n - hint
    for _ in [0:64] do
      if ofs ≥ maxofs then break
      if ← lt (elem (hint + ofs)) key then
        lastofs := ofs
        ofs := 2 * ofs + 1
      else break
    if ofs > maxofs then ofs := maxofs
    lo := (lastofs + hint : Nat)
    hi := ofs + hint
  else
    let maxofs := hint + 1
    for _ in [0:64] do
      if ofs ≥ maxofs then break
      if ← lt (elem (hint - ofs)) key then break
      lastofs := ofs
      ofs := 2 * ofs + 1
    if ofs > maxofs then ofs := maxofs
    lo := (hint : Int) - ofs
    hi := hint - lastofs
  let mut l := (lo + 1).toNat
  let mut r := hi
  for _ in [0:64] do
    if l ≥ r then break
    let m := l + (r - l) / 2
    if ← lt (elem m) key then l := m + 1 else r := m
  pure r

/-- Where `key` goes among the `n` sorted items from `base`, after any equal to it: searched
from the item at `hint` by galloping, then by binary search. -/
def gallopRight (lt : α → α → Outcome Bool) (key : α) (a : Array α) (base n hint : Nat) :
    Outcome Nat := do
  let elem (i : Nat) : α := itemAt a (base + i)
  let mut lastofs := 0
  let mut ofs := 1
  let mut lo : Int := 0
  let mut hi := 0
  if ← lt key (elem hint) then
    let maxofs := hint + 1
    for _ in [0:64] do
      if ofs ≥ maxofs then break
      if ← lt key (elem (hint - ofs)) then
        lastofs := ofs
        ofs := 2 * ofs + 1
      else break
    if ofs > maxofs then ofs := maxofs
    lo := (hint : Int) - ofs
    hi := hint - lastofs
  else
    let maxofs := n - hint
    for _ in [0:64] do
      if ofs ≥ maxofs then break
      if ← lt key (elem (hint + ofs)) then break
      lastofs := ofs
      ofs := 2 * ofs + 1
    if ofs > maxofs then ofs := maxofs
    lo := (lastofs + hint : Nat)
    hi := ofs + hint
  let mut l := (lo + 1).toNat
  let mut r := hi
  for _ in [0:64] do
    if l ≥ r then break
    let m := l + (r - l) / 2
    if ← lt key (elem m) then r := m else l := m + 1
  pure r

/-- How a merge stopped: with the rest of the copied run still to put in place, or with the
one item of it left that goes at the far end. -/
inductive MergeEnd where
  | rest
  | lastOfCopy

/-- The state of a merge from the left: the list, the next slot to fill, the next item of the
copy of the first run and of the second run in place, the counts left, and the gallop
threshold. -/
structure LowMerge (α : Type) where
  a : Array α
  dest : Nat
  pa : Nat
  pb : Nat
  na : Nat
  nb : Nat
  gallop : Nat

/-- Fills the next slot with the next item of the copy of the first run. -/
def LowMerge.fromCopy (tmp : Array α) (c : LowMerge α) : LowMerge α :=
  { c with a := c.a.set! c.dest (itemAt tmp c.pa), dest := c.dest + 1, pa := c.pa + 1,
           na := c.na - 1 }

/-- Fills the next slot with the next item of the second run, which is still in place. -/
def LowMerge.fromRun (c : LowMerge α) : LowMerge α :=
  { c with a := c.a.set! c.dest (itemAt c.a c.pb), dest := c.dest + 1, pb := c.pb + 1,
           nb := c.nb - 1 }

/-- The steps of a merge from the left, through a copy of the first run. -/
def lowMergeSteps (lt : α → α → Outcome Bool) (tmp : Array α) (c0 : LowMerge α) (fuel : Nat) :
    Outcome (LowMerge α × MergeEnd) := do
  let mut c := c0
  for _ in [0:fuel] do
    let mut acount := 0
    let mut bcount := 0
    for _ in [0:fuel] do
      if ← lt (itemAt c.a c.pb) (itemAt tmp c.pa) then
        c := c.fromRun
        bcount := bcount + 1
        acount := 0
        if c.nb == 0 then return (c, .rest)
        if bcount ≥ c.gallop then break
      else
        c := c.fromCopy tmp
        acount := acount + 1
        bcount := 0
        if c.na == 1 then return (c, .lastOfCopy)
        if acount ≥ c.gallop then break
    c := { c with gallop := c.gallop + 1 }
    for _ in [0:fuel] do
      c := { c with gallop := if c.gallop > 1 then c.gallop - 1 else c.gallop }
      let k ← gallopRight lt (itemAt c.a c.pb) tmp c.pa c.na 0
      acount := k
      if k > 0 then
        c := Nat.repeat (LowMerge.fromCopy tmp) k c
        if c.na == 1 then return (c, .lastOfCopy)
        if c.na == 0 then return (c, .rest)
      c := c.fromRun
      if c.nb == 0 then return (c, .rest)
      let k ← gallopLeft lt (itemAt tmp c.pa) c.a c.pb c.nb 0
      bcount := k
      if k > 0 then
        c := Nat.repeat LowMerge.fromRun k c
        if c.nb == 0 then return (c, .rest)
      c := c.fromCopy tmp
      if c.na == 1 then return (c, .lastOfCopy)
      if acount < 7 && bcount < 7 then break
    c := { c with gallop := c.gallop + 1 }
  return (c, .rest)

/-- Merges the run of `na` items at `baseA` with the `nb` items after it, from the left,
through a copy of the first run; gives the list and the new gallop threshold. The first item
of the second run goes first. -/
def mergeLow (lt : α → α → Outcome Bool) (a : Array α) (baseA na nb gallop : Nat) :
    Outcome (Array α × Nat) := do
  let tmp := a.extract baseA (baseA + na)
  let c0 := LowMerge.fromRun ⟨a, baseA, 0, baseA + na, na, nb, gallop⟩
  let (c, stop) ←
    if c0.nb == 0 then pure (c0, MergeEnd.rest)
    else if c0.na == 1 then pure (c0, MergeEnd.lastOfCopy)
    else lowMergeSteps lt tmp c0 (na + nb + 1)
  match stop with
  | .rest => pure ((Nat.repeat (LowMerge.fromCopy tmp) c.na c).a, c.gallop)
  | .lastOfCopy => pure ((Nat.repeat LowMerge.fromRun c.nb c).fromCopy tmp |>.a, c.gallop)

/-- The state of a merge from the right: the list, the next slot to fill from the right, the
last remaining item of the first run in place and of the copy of the second run, the counts
left, and the gallop threshold. -/
structure HighMerge (α : Type) where
  a : Array α
  dest : Nat
  pa : Nat
  pb : Nat
  na : Nat
  nb : Nat
  gallop : Nat

/-- Fills the next slot from the right with the last remaining item of the first run, which is
still in place. -/
def HighMerge.fromRun (c : HighMerge α) : HighMerge α :=
  { c with a := c.a.set! c.dest (itemAt c.a c.pa), dest := c.dest - 1, pa := c.pa - 1,
           na := c.na - 1 }

/-- Fills the next slot from the right with the last remaining item of the copy of the second
run. -/
def HighMerge.fromCopy (tmp : Array α) (c : HighMerge α) : HighMerge α :=
  { c with a := c.a.set! c.dest (itemAt tmp c.pb), dest := c.dest - 1, pb := c.pb - 1,
           nb := c.nb - 1 }

/-- The steps of a merge from the right, through a copy of the second run. -/
def highMergeSteps (lt : α → α → Outcome Bool) (tmp : Array α) (baseA : Nat) (c0 : HighMerge α)
    (fuel : Nat) : Outcome (HighMerge α × MergeEnd) := do
  let mut c := c0
  for _ in [0:fuel] do
    let mut acount := 0
    let mut bcount := 0
    for _ in [0:fuel] do
      if ← lt (itemAt tmp c.pb) (itemAt c.a c.pa) then
        c := c.fromRun
        acount := acount + 1
        bcount := 0
        if c.na == 0 then return (c, .rest)
        if acount ≥ c.gallop then break
      else
        c := c.fromCopy tmp
        bcount := bcount + 1
        acount := 0
        if c.nb == 1 then return (c, .lastOfCopy)
        if bcount ≥ c.gallop then break
    c := { c with gallop := c.gallop + 1 }
    for _ in [0:fuel] do
      c := { c with gallop := if c.gallop > 1 then c.gallop - 1 else c.gallop }
      let k ← gallopRight lt (itemAt tmp c.pb) c.a baseA c.na (c.na - 1)
      let k := c.na - k
      acount := k
      if k > 0 then
        c := Nat.repeat HighMerge.fromRun k c
        if c.na == 0 then return (c, .rest)
      c := c.fromCopy tmp
      if c.nb == 1 then return (c, .lastOfCopy)
      let k ← gallopLeft lt (itemAt c.a c.pa) tmp 0 c.nb (c.nb - 1)
      let k := c.nb - k
      bcount := k
      if k > 0 then
        c := Nat.repeat (HighMerge.fromCopy tmp) k c
        if c.nb == 1 then return (c, .lastOfCopy)
        if c.nb == 0 then return (c, .rest)
      c := c.fromRun
      if c.na == 0 then return (c, .rest)
      if acount < 7 && bcount < 7 then break
    c := { c with gallop := c.gallop + 1 }
  return (c, .rest)

/-- Merges the run of `na` items at `baseA` with the `nb` items after it, from the right,
through a copy of the second run; gives the list and the new gallop threshold. The last item
of the first run goes last. -/
def mergeHigh (lt : α → α → Outcome Bool) (a : Array α) (baseA na nb gallop : Nat) :
    Outcome (Array α × Nat) := do
  let baseB := baseA + na
  let tmp := a.extract baseB (baseB + nb)
  let c0 := HighMerge.fromRun ⟨a, baseB + nb - 1, baseA + na - 1, nb - 1, na, nb, gallop⟩
  let (c, stop) ←
    if c0.na == 0 then pure (c0, MergeEnd.rest)
    else if c0.nb == 1 then pure (c0, MergeEnd.lastOfCopy)
    else highMergeSteps lt tmp baseA c0 (na + nb + 1)
  match stop with
  | .rest => pure ((Nat.repeat (HighMerge.fromCopy tmp) c.nb c).a, c.gallop)
  | .lastOfCopy => pure ((Nat.repeat HighMerge.fromRun c.na c).fromCopy tmp |>.a, c.gallop)

end

/-- A run on the merge stack: where it starts, its length, and its power. -/
structure SortRun where
  base : Nat
  len : Nat
  power : Nat
deriving Inhabited

section

variable {α : Type} [Inhabited α]

/-- Merges the runs at `i` and `i + 1` of the stack. -/
def mergeAt (lt : α → α → Outcome Bool) (a : Array α) (runs : Array SortRun) (i gallop : Nat) :
    Outcome (Array α × Array SortRun × Nat) := do
  let ra := runs.getD i default
  let rb := runs.getD (i + 1) default
  let mut runs := runs.set! i { ra with len := ra.len + rb.len }
  if i + 3 == runs.size then runs := runs.set! (i + 1) (runs.getD (i + 2) default)
  runs := runs.pop
  let k ← gallopRight lt (itemAt a rb.base) a ra.base ra.len 0
  let baseA := ra.base + k
  let na := ra.len - k
  if na == 0 then return (a, runs, gallop)
  let nb ← gallopLeft lt (itemAt a (baseA + na - 1)) a rb.base rb.len (rb.len - 1)
  if nb == 0 then return (a, runs, gallop)
  let (out, g) ← if na ≤ nb then mergeLow lt a baseA na nb gallop else mergeHigh lt a baseA na nb gallop
  pure (out, runs, g)

/-- Merges into the top run the runs below it whose power is greater than `power`, the power
of the boundary after the top run. -/
def mergeCollapse (lt : α → α → Outcome Bool) (a : Array α) (runs : Array SortRun)
    (power gallop : Nat) : Outcome (Array α × Array SortRun × Nat) := do
  let mut a := a
  let mut runs := runs
  let mut gallop := gallop
  for _ in [0:runs.size] do
    if runs.size > 1 && (runs.getD (runs.size - 2) default).power > power then
      let r ← mergeAt lt a runs (runs.size - 2) gallop
      a := r.1
      runs := r.2.1
      gallop := r.2.2
    else break
  pure (a, runs, gallop)

/-- Merges the stack down to one run, from the top, the smaller of the neighbours first. -/
def mergeForceCollapse (lt : α → α → Outcome Bool) (a : Array α) (runs : Array SortRun)
    (gallop : Nat) : Outcome (Array α) := do
  let mut a := a
  let mut runs := runs
  let mut gallop := gallop
  for _ in [0:runs.size] do
    if runs.size ≤ 1 then break
    let mut k := runs.size - 2
    if k > 0 && (runs.getD (k - 1) default).len < (runs.getD (k + 1) default).len then k := k - 1
    let r ← mergeAt lt a runs k gallop
    a := r.1
    runs := r.2.1
    gallop := r.2.2
  pure a

/-- The run at `lo`, up to `n`: counted, reversed when strictly descending, and extended by
binary insertion to `minrun` items or to the end; gives the list and the run's length. -/
def nextRun (lt : α → α → Outcome Bool) (a : Array α) (lo n minrun : Nat) :
    Outcome (Array α × Nat) := do
  let (len, descending) ← countRun lt a lo n
  let a := if descending then reverseRange a lo (lo + len) else a
  if len < minrun then
    let force := min (n - lo) minrun
    let a ← binaryInsertion lt a lo (lo + force) (lo + len)
    return (a, force)
  return (a, len)

/-- Pushes the run of `len` items at `lo` on the stack, in a list of `n` items, after merging
into the top run the runs below it whose power is greater than that of the boundary between
the top run and the new one. -/
def pushRun (lt : α → α → Outcome Bool) (a : Array α) (runs : Array SortRun) (lo len n gallop : Nat) :
    Outcome (Array α × Array SortRun × Nat) := do
  if runs.size > 0 then
    let top := runs.getD (runs.size - 1) default
    let power := runPower top.base top.len len n
    let (a, runs, gallop) ← mergeCollapse lt a runs power gallop
    let runs := runs.set! (runs.size - 1) { runs.getD (runs.size - 1) default with power := power }
    return (a, runs.push ⟨lo, len, 0⟩, gallop)
  return (a, runs.push ⟨lo, len, 0⟩, gallop)

/-- Sorts stably by a comparison that may fail. -/
def sortWith (lt : α → α → Outcome Bool) (xs : List α) : Outcome (List α) := do
  let n := xs.length
  if n < 2 then return xs
  let mut a := xs.toArray
  let minrun := minRun n
  let mut lo := 0
  let mut runs : Array SortRun := #[]
  let mut gallop := 7
  for _ in [0:n] do
    if lo ≥ n then break
    let (run, len) ← nextRun lt a lo n minrun
    let r ← pushRun lt run runs lo len n gallop
    a := r.1
    runs := r.2.1
    gallop := r.2.2
    lo := lo + len
  let sorted ← mergeForceCollapse lt a runs gallop
  pure sorted.toList

/-- Sorts by keys, in descending order when `reverse`: the list is reversed, sorted stably and
reversed back, so equal keys keep their order. -/
def sortByKeys {β : Type} [Inhabited β] (lt : Value → Value → Outcome Bool) (keyed : List (Value × β))
    (reverse : Bool) : Outcome (List β) := do
  let input := if reverse then keyed.reverse else keyed
  let sorted ← sortWith (fun a b => lt a.1 b.1) input
  let out := sorted.map Prod.snd
  pure (if reverse then out.reverse else out)

end

/-- The order of values under `<`. -/
def lessThan (a b : Value) : Outcome Bool := compareWith .lt a b

end Dashwright.Value
