import Colonnade.Document.Store
import Colonnade.Number.Parts

/-!
# The order of a set

The members of a set are visited in the order of their slots in a hash table.  A number is hashed as
a remainder, so the slots of numbers are known.  Texts and times are hashed in another way in every
run: a set that has members other than numbers is left in the order of the document.
-/

namespace Colonnade.Document.SetOrder

/-! ## Hashes -/

/-- Numbers are hashed as remainders of this prime. -/
def modulus : Nat := Number.twoTo 61 - 1

/-- A remainder with a sign, in sixty-four bits.  The negative of one has no hash of its own. -/
def signed (negative : Bool) (remainder : Nat) : Nat :=
  if negative && remainder != 0 then Number.twoTo 64 - (if remainder = 1 then 2 else remainder)
  else remainder

/-- The hash of a member that is a number.  A power of two is a remainder also where it is a
fraction, since the powers come round after sixty-one. -/
def hash? : Member → Option Nat
  | .scalar _ (.bool b) => some (if b then 1 else 0)
  | .scalar _ (.int n) => some (signed (n < 0) (n.natAbs % modulus))
  | .scalar _ (.float x) =>
    match Number.Parts.ofFloat x with
    | .finite negative mantissa exponent =>
      some (signed negative (mantissa * Number.twoTo (exponent % 61).toNat % modulus))
    | .infinite negative => some (signed negative 314159)
    | .nan => none
  | _ => none

/-! ## Slots -/

/-- The number of slots for some members. -/
def slotCount (members : Nat) : Nat :=
  if members < 5 then 8 else Number.twoTo ((2 * members).log2 + 1)

/-- The first free slot on the way from a place, where ten slots in a row are looked at before the
way jumps.  The first argument bounds the jumps. -/
def freeSlot (slots : Nat) (taken : List Nat) : Nat → Nat → Nat → Nat
  | 0, _, place => place
  | bound + 1, hash, place =>
    let row := if place + 9 < slots then List.range' place 10 else [place]
    match row.find? fun slot => !taken.contains slot with
    | some slot => slot
    | none => freeSlot slots taken bound (hash / 32) ((5 * place + 1 + hash / 32) % slots)

/-- The slots of members with given hashes, which are put in one after the other. -/
def slotsOf (slots : Nat) (taken : List Nat) : List Nat → List Nat
  | [] => []
  | hash :: rest =>
    -- After thirteen jumps nothing of a hash is left, and the way goes through all slots.
    let slot := freeSlot slots taken (slots + 13) hash (hash % slots)
    slot :: slotsOf slots (slot :: taken) rest

theorem length_slotsOf (slots : Nat) (taken hashes : List Nat) :
    (slotsOf slots taken hashes).length = hashes.length := by
  induction hashes generalizing taken with
  | nil => rfl
  | cons hash rest ih => rw [slotsOf, List.length_cons, List.length_cons, ih]

/-- The slots of the members of a set of numbers. -/
def memberSlots (members : List Member) : List Nat :=
  slotsOf (slotCount members.length) [] (members.map fun m => (hash? m).getD 0)

theorem length_memberSlots (members : List Member) :
    (memberSlots members).length = members.length := by
  rw [memberSlots, length_slotsOf, List.length_map]

/-! ## Visits -/

/-- The members of a set in the order in which they are visited. -/
def visited (members : List Member) : List Member :=
  if members.all fun m => (hash? m).isSome then
    ((members.zip (memberSlots members)).mergeSort fun a b => decide (a.2 ≤ b.2)).map Prod.fst
  else members

/-- Visiting a set puts its members in another order and does nothing else. -/
theorem visited_perm (members : List Member) : (visited members).Perm members := by
  unfold visited
  split
  · have hsorted := (List.mergeSort_perm (members.zip (memberSlots members))
      fun a b => decide (a.2 ≤ b.2)).map Prod.fst
    rwa [List.map_fst_zip (Nat.le_of_eq (length_memberSlots members).symm)] at hsorted
  · exact .refl _

end Colonnade.Document.SetOrder
