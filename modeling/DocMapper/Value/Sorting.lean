import DocMapper.Fault
/-!
# Sorting

`Sorting.sort` sorts a list by asking which of two elements comes before the other; asking may fail.
Elements of which neither comes before the other keep their places.

The sort takes the run that the list begins with as it is, turned around if it descends, and then
puts one element after another in its place, which it finds by halving. What is asked, and in which
order, is part of the result: a question that fails ends the sort, and elements without an order stay
where the answers put them.
-/

namespace DocMapper.Sorting

variable {α : Type}

/-- How many elements continue a run whose last element is given: each comes before the one in front
of it if the run descends, and does not if it ascends. -/
def runLength (before : α → α → Except Fault Bool) (descending : Bool) (last : α) :
    List α → Except Fault Nat
  | [] => .ok 0
  | x :: rest => do
    if (← before x last) = descending then return (← runLength before descending x rest) + 1
    else return 0

/-- The run at the head of a list in ascending order, and the rest of the list. -/
def leadingRun (before : α → α → Except Fault Bool) : List α → Except Fault (List α × List α)
  | x :: y :: rest => do
    let descending ← before y x
    let length := 2 + (← runLength before descending y rest)
    let run := (x :: y :: rest).take length
    return (if descending then run.reverse else run, (x :: y :: rest).drop length)
  | xs => .ok (xs, [])

/-- Where an element goes in a sorted list: behind all that it does not come before. The place is
looked for between two others. -/
def place (before : α → α → Except Fault Bool) (sorted : List α) (x : α) (low high : Nat) :
    Except Fault Nat :=
  if low < high then
    let middle := low + (high - low) / 2
    match sorted[middle]? with
    | none => .ok low
    | some y => do
      if ← before x y then place before sorted x low middle
      else place before sorted x (middle + 1) high
  else .ok low
termination_by high - low

/-- Puts an element in its place in a sorted list. -/
def insert (before : α → α → Except Fault Bool) (sorted : List α) (x : α) :
    Except Fault (List α) := do
  let i ← place before sorted x 0 sorted.length
  return sorted.take i ++ x :: sorted.drop i

/-- Sorts a list in ascending order. -/
def ascending (before : α → α → Except Fault Bool) (xs : List α) : Except Fault (List α) := do
  let (run, rest) ← leadingRun before xs
  rest.foldlM (insert before) run

/-- Sorts a list, in descending order if asked to. -/
def sort (before : α → α → Except Fault Bool) (descending : Bool) (xs : List α) :
    Except Fault (List α) :=
  if descending then do return (← ascending before xs.reverse).reverse
  else ascending before xs

end DocMapper.Sorting
