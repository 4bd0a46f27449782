import PageWalk.Fault

/-!
# Bounded queues

A first-in first-out channel between two parts. The sender may add an element
while there is room; the receiver takes the oldest one.
-/

namespace PageWalk

/-- A queue of at most `capacity` elements, oldest first. -/
structure BoundedQueue (Element : Type) where
  capacity : Nat
  elements : List Element := []
  length_le : elements.length ≤ capacity := by simp

namespace BoundedQueue

variable {Element : Type}

/-- An empty queue, which must have room for something. -/
def create (Element : Type) (capacity : Nat) : Except Fault (BoundedQueue Element) :=
  if capacity = 0 then .error .noQueueCapacity else .ok { capacity := capacity }

def ready (queue : BoundedQueue Element) : Bool :=
  queue.elements.length < queue.capacity

def valid (queue : BoundedQueue Element) : Bool :=
  !queue.elements.isEmpty

def size (queue : BoundedQueue Element) : Nat :=
  queue.elements.length

def send? (queue : BoundedQueue Element) (element : Element) : Option (BoundedQueue Element) :=
  if room : queue.elements.length < queue.capacity then
    some
      { capacity := queue.capacity
        elements := queue.elements ++ [element]
        length_le := by rw [List.length_append]; exact room }
  else
    none

def peek? (queue : BoundedQueue Element) : Option Element :=
  queue.elements.head?

def tail (queue : BoundedQueue Element) : BoundedQueue Element where
  capacity := queue.capacity
  elements := queue.elements.tail
  length_le := by
    have := queue.length_le
    rw [List.length_tail]
    omega

def flush (queue : BoundedQueue Element) : BoundedQueue Element where
  capacity := queue.capacity

/-- The oldest element, which has to be there. -/
def peek (queue : BoundedQueue Element) : Except Fault Element :=
  match queue.peek? with
  | some element => .ok element
  | none => .error .peekEmptyQueue

/-- Takes the oldest element, which has to be there. -/
def pop (queue : BoundedQueue Element) : Except Fault (BoundedQueue Element) :=
  if queue.valid then .ok queue.tail else .error .popEmptyQueue

end BoundedQueue

end PageWalk
