import Syfrah.Lib.Tx
import Syfrah.Lib.Text

/-!
# What a node reads from outside the replicated state

The stores read the wall clock, the random generator of the thread, the process id and the
iteration order of hash maps. None of these is part of the state machine, so each node has its own:
they are streams, consumed as the code asks for the next value.
-/

namespace Syfrah

/-- The order in which a hash map yields its keys: some arrangement of them. -/
structure HashOrder where
  arrange : List String → List String
  perm : ∀ keys, (arrange keys).Perm keys

/-- The hash map that yields its keys in the order of the keys. -/
def HashOrder.sorted : HashOrder where
  arrange keys := keys
  perm _ := List.Perm.refl _

theorem HashOrder.mem_arrange (o : HashOrder) {k : String} {keys : List String} :
    k ∈ o.arrange keys ↔ k ∈ keys :=
  (o.perm keys).mem_iff

/-- The outside of one node. The clock counts milliseconds since the epoch. -/
structure Ambient where
  clock : ℕ → ℕ
  rng : ℕ → UInt8
  pid : ℕ
  orders : ℕ → HashOrder

namespace Ambient

/-- A node whose clock stands still and whose generator repeats one byte. -/
def steady (byte : UInt8) : Ambient where
  clock _ := 0
  rng _ := byte
  pid := 1
  orders _ := .sorted

/-- Milliseconds since the epoch at this reading, and the clock after it. -/
def nowMillis (a : Ambient) : ℕ × Ambient :=
  (a.clock 0, { a with clock := fun n => a.clock (n + 1) })

def nowSecs (a : Ambient) : ℕ × Ambient := (a.clock 0 / 1000, a.nowMillis.2)

/-- Twelve bytes of the generator, reduced to hexadecimal digits after the given words. -/
def generateId (word : String) (a : Ambient) : String × Ambient :=
  (word ++ "-" ++ String.ofList ((List.range 12).map fun i => Nat.digitChar ((a.rng i).toNat % 16)),
    { a with rng := fun n => a.rng (n + 12) })

/-- The order of the next hash map that is iterated. -/
def nextOrder (a : Ambient) : HashOrder × Ambient :=
  (a.orders 0, { a with orders := fun n => a.orders (n + 1) })

end Ambient

end Syfrah
