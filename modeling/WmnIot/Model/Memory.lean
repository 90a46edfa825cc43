import WmnIot.Model.Config

/-! # Arrays of linked blocks

`memory.c`, which is there on RIOT only: an array is a list of blocks of one byte each, taken from a
pool that RIOT's `memarray` manages. A pointer to an `array_t` is the name of the variable.

* **`Pool`**, **`Memarray`** — the blocks and what hands them out.
* **`Memory`** — the pool and the variables of the program that are arrays.
* **`createArray`**, **`freeArray`**, **`writeElement`**, **`readElement`** — the functions of the
  module. -/

namespace WmnIot

namespace Config

/-- `MAX_NUMBER_BLOCKS`. -/
abbrev maxNumberBlocks : ℕ := 10240

end Config

/-- Why a call does not return. -/
inductive Fault
  | halt (h : Halt)
  /-- A null pointer is followed. -/
  | nullPointer
  /-- A variable is used that has not been given a value. -/
  | indeterminate
  /-- A loop visits more blocks than there are. -/
  | endless
  deriving DecidableEq, Repr

/-- `memory_block_t`, with a `BLOCK_SIZE` of 1. -/
structure MemoryBlock (P : Type) where
  next : Option P
  block : UInt8

/-- `array_t`. -/
structure ArrayT (P : Type) where
  head : Option P := none
  size : ℕ := 0

/-- The blocks `MEMORY` and the `memarray_t` that manages them. -/
structure Pool (P S : Type) where
  storage : S
  blocks : P → MemoryBlock P

/-- The functions of RIOT's `memarray`, which is not part of the repository. -/
structure Memarray (P S : Type) where
  /-- `memarray_available`. -/
  available : Pool P S → ℕ
  /-- `memarray_alloc`. -/
  alloc : Pool P S → Option P × Pool P S
  /-- `memarray_free`. -/
  free : P → Pool P S → Pool P S

/-- The pool, and the variables of type `array_t`: `none` until they are given a value. -/
structure Memory (A P S : Type) where
  pool : Pool P S
  arrays : A → Option (ArrayT P)

section

variable {A P S : Type} [DecidableEq A] [DecidableEq P]

/-- `block->next = next`. -/
def Pool.setNext (s : Pool P S) (p : P) (next : Option P) : Pool P S :=
  { s with blocks := Function.update s.blocks p { s.blocks p with next := next } }

/-- `block->block[0] = element`. -/
def Pool.setBlock (s : Pool P S) (p : P) (element : UInt8) : Pool P S :=
  { s with blocks := Function.update s.blocks p { s.blocks p with block := element } }

/-- The value of a variable. -/
def Memory.get (m : Memory A P S) (array : A) : Except Fault (ArrayT P) :=
  match m.arrays array with
  | none => .error .indeterminate
  | some value => .ok value

/-! ## Creating and freeing -/

/-- The loop of `create_array`: allocate `n` blocks more and link them to the block before. -/
def createLoop (M : Memarray P S) : ℕ → P → Pool P S → Except Fault (Pool P S)
  | 0, _, s => .ok s
  | n + 1, block, s =>
    let (next, s) := M.alloc s
    let s := s.setNext block next
    match next with
    | none => .error .nullPointer
    | some block => createLoop M n block ((s.setNext block none).setBlock block 0)

/-- `create_array`. -/
def createArray (M : Memarray P S) (array : A) (size : ℕ) (m : Memory A P S) :
    Except Fault (Memory A P S × ℕ) := do
  if size = 0 then return (m, 0)
  if size > M.available m.pool then return (m, 0)
  match M.alloc m.pool with
  | (none, s) =>
    return ({
      pool := s
      arrays := Function.update m.arrays array
        ((m.arrays array).map fun value => { value with size := size }) }, 0)
  | (some block, s) =>
    let s ← createLoop M (size - 1) block ((s.setBlock block 0).setNext block none)
    return ({
      pool := s
      arrays := Function.update m.arrays array (some { head := some block, size := size }) }, 1)

/-- The loop of `free_array`, which visits at most `fuel` blocks. -/
def freeLoop (M : Memarray P S) : ℕ → Option P → Pool P S → Except Fault (Pool P S)
  | _, none, s => .ok s
  | 0, some _, _ => .error .endless
  | fuel + 1, some head, s => freeLoop M fuel (s.blocks head).next (M.free head s)

/-- `free_array`. -/
def freeArray [Fintype P] (M : Memarray P S) (array : A) (m : Memory A P S) :
    Except Fault (Memory A P S × ℕ) := do
  let value ← m.get array
  if value.head.isNone then return (m, 0)
  if value.size = 0 then return (m, 0)
  let s ← freeLoop M (Fintype.card P) value.head m.pool
  return ({ pool := s, arrays := Function.update m.arrays array (some {}) }, 1)

/-! ## Elements -/

/-- The loop of `write_element` and `read_element`, with `n` iterations to go. -/
def ithBlock (blocks : P → MemoryBlock P) (i : ℕ) : ℕ → ℕ → Option P → Except Fault (Option P)
  | 0, _, block => .ok block
  | n + 1, ith, block =>
    if ith = i then .ok block
    else
      match block with
      | none => .error .nullPointer
      | some p => ithBlock blocks i n (ith + 1) (blocks p).next

/-- The block of an array that the two functions access. -/
def elementBlock (m : Memory A P S) (value : ArrayT P) (i : ℕ) : Except Fault P := do
  match ← ithBlock m.pool.blocks i value.size 0 value.head with
  | none => throw .nullPointer
  | some p => return p

/-- `write_element`. -/
def writeElement (array : A) (element : UInt8) (i : ℕ) (m : Memory A P S) :
    Except Fault (Memory A P S × ℕ) := do
  let value ← m.get array
  if i ≥ value.size then return (m, 0)
  let p ← elementBlock m value i
  return ({ m with pool := m.pool.setBlock p element }, 1)

/-- `read_element` into a variable with the value `element`. -/
def readElement (array : A) (element : UInt8) (i : ℕ) (m : Memory A P S) :
    Except Fault (UInt8 × ℕ) := do
  let value ← m.get array
  if i ≥ value.size then return (element, 0)
  let p ← elementBlock m value i
  return ((m.pool.blocks p).block, 1)

end

end WmnIot
