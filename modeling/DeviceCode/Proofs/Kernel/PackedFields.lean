import DeviceCode.Proofs.Kernel.NaturalLayout
import DeviceCode.Proofs.LoadSuccess

/-!
# Packed arguments can be read back

`ArgLayout.pack` writes the arguments over one zeroed buffer, one after the other. What becomes of
a single byte is said by `Bytes.getElem?_overwrite_inside` and `Bytes.getElem?_overwrite_outside`:
it is a byte of the argument that is written there, or it stays. Since the parameters of a layout
have ranges of their own, nothing that comes later reaches an argument that is written already, and
a byte in no range is still zero at the end (`ArgLayout.Written`).

A layout may be larger than any buffer. Then there is nothing to write over: packing panics before it
looks at the first argument.
-/

namespace DeviceCode

namespace Bytes

variable {bs new : Bytes} {offset i : Nat}

theorem getElem?_overwrite_inside (h : Holds bs offset new.length) (hi : i < new.length) :
    (overwrite bs offset new)[offset + i]? = new[i]? := by
  have hoffset : offset ≤ bs.length := Nat.le_of_add_right_le h
  have hfront : (bs.take offset).length = offset := List.length_take_of_le hoffset
  rw [overwrite, List.append_assoc, List.getElem?_append_right (by omega), hfront,
    Nat.add_sub_cancel_left, List.getElem?_append_left hi]

theorem getElem?_overwrite_outside (h : Holds bs offset new.length)
    (hi : i < offset ∨ offset + new.length ≤ i) : (overwrite bs offset new)[i]? = bs[i]? := by
  have hoffset : offset ≤ bs.length := Nat.le_of_add_right_le h
  have hfront : (bs.take offset).length = offset := List.length_take_of_le hoffset
  rw [overwrite, List.append_assoc]
  obtain hbefore | hafter := hi
  · rw [List.getElem?_append_left (by omega), List.getElem?_take_of_lt hbefore]
  · rw [List.getElem?_append_right (by omega), hfront, List.getElem?_append_right (by omega),
      List.getElem?_drop]
    congr 1
    omega

end Bytes

namespace ArgLayout

variable {l : ArgLayout} {arguments : List Bytes}

/-- The byte lies in the range of none of the parameters. -/
def Padding (ps : List Parameter) (offsets : List Nat) (byte : Nat) : Prop :=
  ∀ (i offset : Nat) (p : Parameter), ps[i]? = some p → offsets[i]? = some offset →
    byte < offset ∨ offset + p.size ≤ byte

/-- The buffer with the arguments written at these offsets, and no other byte changed. -/
structure Written (buffer : Bytes) (arguments : List Bytes) (ps : List Parameter)
    (offsets : List Nat) (filled : Bytes) : Prop where
  length : filled.length = buffer.length
  argument : ∀ (i offset : Nat) (argument : Bytes), arguments[i]? = some argument →
    offsets[i]? = some offset → ∀ k < argument.length, filled[offset + k]? = argument[k]?
  frame : ∀ byte, Padding ps offsets byte → filled[byte]? = buffer[byte]?

/-- **Filling writes the arguments and nothing else.** The induction is along the parameters: those
that follow lie behind the argument just written. -/
theorem Lies.written {free stop : Nat} {ps : List Parameter} {offsets : List Nat}
    (h : Lies free ps offsets stop) {buffer filled : Bytes} {index : Nat}
    (hcount : arguments.length = ps.length) (hroom : stop ≤ buffer.length)
    (hfill : fill buffer index (arguments.zip (ps.zip offsets)) = .ok filled) :
    Written buffer arguments ps offsets filled := by
  induction h generalizing arguments buffer index with
  | nil =>
    obtain rfl := List.length_eq_zero_iff.mp hcount
    cases hfill
    refine ⟨rfl, fun i offset argument hargument => ?_, fun _ _ => rfl⟩
    cases hargument
  | @cons _ offset _ p ps offsets hleast hrest ih =>
    cases arguments with
    | nil => cases hcount
    | cons argument arguments =>
      rw [List.zip_cons_cons, List.zip_cons_cons, fill] at hfill
      split at hfill
      · next hsize =>
        have hstop := hrest.le_stop
        have hholds : Bytes.Holds buffer offset argument.length := by
          rw [Bytes.Holds]
          omega
        have hlength := Bytes.length_overwrite hholds
        have hwritten := ih (Nat.succ.inj hcount) (hlength.symm ▸ hroom) hfill
        refine ⟨hwritten.length.trans hlength, ?_, ?_⟩
        · intro i offset' argument' hargument hoffset k hk
          cases i with
          | zero =>
            cases hargument
            cases hoffset
            have hbehind : Padding ps offsets (offset + k) := by
              intro j offset' p' hp' hoffset'
              have hfree := (hrest.bounds hp' hoffset').1
              omega
            exact (hwritten.frame _ hbehind).trans (Bytes.getElem?_overwrite_inside hholds hk)
          | succ i => exact hwritten.argument i offset' argument' hargument hoffset k hk
        · intro byte hpadding
          have hfirst := hpadding 0 offset p rfl rfl
          refine (hwritten.frame byte fun i => hpadding (i + 1)).trans ?_
          exact Bytes.getElem?_overwrite_outside hholds (by omega)
      · cases hfill

theorem Natural.written (hl : l.Natural) {bytes : Bytes} (h : l.pack arguments = .ok bytes) :
    Written (Bytes.zeros l.totalSize) arguments l.parameters l.offsets bytes := by
  obtain ⟨stop, hlies, htotal⟩ := natural_iff.mp hl
  obtain ⟨hcount, -, hfill⟩ := pack_eq_ok_iff.mp h
  refine hlies.written hcount ?_ hfill
  rw [Bytes.length_zeros]
  exact htotal.1.2

/-! ## Reading -/

end ArgLayout

end DeviceCode
