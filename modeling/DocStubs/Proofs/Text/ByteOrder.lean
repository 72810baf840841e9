import Mathlib.Data.List.Basic
import Mathlib.Tactic.SplitIfs

/-!
# The order of bytes

Texts are compared character by character, and file names byte by byte. Both orders are the same:
of two different characters the smaller one is written with the smaller byte at the first place
where their bytes differ, and no character is written as the beginning of another.

## Main definitions

* `bytesOf` — the bytes of a text
* `Bytewise` — the order of texts by their bytes

## Main results

* `bytewise_iff_lt` — it is the order of texts
-/

namespace DocStubs

/-- The bytes that a text is written in. -/
def bytesOf (text : String) : List UInt8 := text.toByteArray.data.toList

/-- One text comes before another in the order of their bytes. -/
def Bytewise (text other : String) : Prop := bytesOf text < bytesOf other

theorem bytesOf_eq_flatMap (text : String) :
    bytesOf text = text.toList.flatMap String.utf8EncodeChar := by
  conv_lhs => rw [bytesOf, ← String.ofList_toList (s := text)]
  show (List.utf8Encode _).data.toList = _
  simp [List.utf8Encode]

/-- Two characters are told apart by their bytes, whatever follows them. -/
theorem utf8EncodeChar_append_lt {c d : Char} (h : c < d) (rest rest' : List UInt8) :
    String.utf8EncodeChar c ++ rest < String.utf8EncodeChar d ++ rest' := by
  have hlt : c.val.toNat < d.val.toNat := UInt32.lt_iff_toNat_lt.mp (Char.lt_def.mp h)
  have hlimit : d.val.toNat < 0x110000 := by
    have hvalid := d.valid
    simp only [UInt32.isValidChar, Nat.isValidChar] at hvalid
    omega
  rw [String.utf8EncodeChar, String.utf8EncodeChar]
  generalize c.val.toNat = first at *
  generalize d.val.toNat = second at *
  -- One case for each pair of lengths; where they differ, the first bytes do.
  split_ifs
  all_goals
    simp only [List.cons_append, List.nil_append, List.cons_lt_cons_iff, UInt8.lt_iff_toNat_lt,
      ← UInt8.toNat_inj, UInt8.toNat_ofNat']
    simp (disch := omega) only [Nat.mod_eq_of_lt]
    omega

theorem flatMap_utf8EncodeChar_lt {chars others : List Char} (h : chars < others) :
    chars.flatMap String.utf8EncodeChar < others.flatMap String.utf8EncodeChar := by
  induction chars generalizing others with
  | nil =>
    cases others with
    | nil => exact absurd h (List.lt_irrefl [])
    | cons d others =>
      rw [List.flatMap_nil, List.flatMap_cons]
      obtain ⟨byte, bytes, hbytes⟩ :=
        List.exists_cons_of_ne_nil (String.utf8EncodeChar_ne_nil (c := d))
      rw [hbytes]
      exact List.nil_lt_cons byte _
  | cons c chars ih =>
    cases others with
    | nil => exact absurd h (List.not_lt_nil _)
    | cons d others =>
      rw [List.flatMap_cons, List.flatMap_cons]
      rcases List.cons_lt_cons_iff.mp h with hlt | ⟨rfl, hrest⟩
      · exact utf8EncodeChar_append_lt hlt _ _
      · exact List.append_left_lt (ih hrest)

/-- The order of texts is that of their bytes. -/
theorem bytewise_iff_lt {text other : String} : Bytewise text other ↔ text < other := by
  rw [Bytewise, bytesOf_eq_flatMap, bytesOf_eq_flatMap, String.lt_iff]
  refine ⟨fun h => ?_, flatMap_utf8EncodeChar_lt⟩
  rcases Std.lt_trichotomy text.toList other.toList with hlt | heq | hgt
  · exact hlt
  · rw [heq] at h
    exact absurd h (List.lt_irrefl _)
  · exact absurd h (List.lt_asymm (flatMap_utf8EncodeChar_lt hgt))

end DocStubs
