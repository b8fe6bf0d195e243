import BoundedTls.Connection.Handle

/-!
# Handles are drawn apart

The source of handles counts in 64-bit words and starts again when they are used up. So two handles
that were drawn from it are the same only if as many lie between them as there are words. A handle
is shown by the digits of its value, from which it can be told again.
-/

namespace BoundedTls

/-! ## Handles as texts -/

namespace Handle

/-- The handle that is shown by a text. -/
def ofText (text : String) : Handle :=
  ⟨UInt64.ofNat (Nat.ofDigitChars 10 (text.toList.drop "conn-".length) 0)⟩

theorem ofText_render (h : Handle) : ofText h.render = h := by
  have hdigits : h.render.toList.drop "conn-".length = Nat.toDigits 10 h.value.toNat := by
    simp only [render, Text.numeral, String.toList_append, String.toList_ofList]
    exact List.drop_left' rfl
  rw [ofText, hdigits, Nat.ofDigitChars_ten_toDigits, UInt64.ofNat_toNat]

/-- **Handles are shown apart.** -/
theorem render_eq_iff {h h' : Handle} : h.render = h'.render ↔ h = h' := by
  constructor
  · intro hshown
    rw [← ofText_render h, hshown, ofText_render]
  · intro hsame
    rw [hsame]

end Handle

/-! ## Handles from a source -/

namespace HandleSource

/-- A source hands out its values one after the other. -/
theorem drawMany_eq (s : HandleSource) (count : Nat) :
    s.drawMany count =
      ((List.range count).map fun i => ⟨s.next + UInt64.ofNat i⟩,
        ⟨s.next + UInt64.ofNat count⟩) := by
  -- The source moves on with every draw, so it is general.
  induction count generalizing s with
  | zero => simp [drawMany]
  | succ count ih =>
    have hnext (i : Nat) : s.next + 1 + UInt64.ofNat i = s.next + UInt64.ofNat (i + 1) := by
      rw [UInt64.ofNat_add, UInt64.add_assoc]
      congr 1
      exact UInt64.add_comm _ _
    simp only [drawMany, draw, ih, hnext, List.range_succ_eq_map, List.map_cons, List.map_map]
    simp [Function.comp_def]

/-- These handles were drawn from a new source, one after the other, and left it so. -/
def Issued (handles : List Handle) (s : HandleSource) : Prop :=
  ({} : HandleSource).drawMany handles.length = (handles, s)

variable {handles : List Handle} {s : HandleSource}

theorem issued_drawMany (count : Nat) :
    Issued (({} : HandleSource).drawMany count).1 (({} : HandleSource).drawMany count).2 := by
  simp [Issued, drawMany_eq]

/-- A draw adds its handle to those that were issued. -/
theorem Issued.draw (h : Issued handles s) : Issued (handles ++ [s.draw.1]) s.draw.2 := by
  unfold Issued at h ⊢
  rw [drawMany_eq, Prod.mk.injEq] at h
  obtain ⟨hhandles, rfl⟩ := h
  rw [drawMany_eq, List.length_append, List.length_singleton, List.range_succ, List.map_append,
    hhandles, UInt64.ofNat_add, ← UInt64.add_assoc]
  rfl

/-- **Handles are drawn apart.** -/
theorem Issued.apart (h : Issued handles s) {i j : Nat} {handle : Handle}
    (hi : handles[i]? = some handle) (hj : handles[j]? = some handle) :
    i % UInt64.size = j % UInt64.size := by
  unfold Issued at h
  rw [drawMany_eq, Prod.mk.injEq] at h
  -- The value of a handle tells its place, up to a whole round of the words.
  have hvalue {k : Nat} (hk : handles[k]? = some handle) : handle.value = 1 + UInt64.ofNat k := by
    rw [← h.1, List.getElem?_map] at hk
    obtain ⟨index, hindex, rfl⟩ := Option.map_eq_some_iff.mp hk
    have hsame : index = k := by simpa using (List.getElem?_eq_some_iff.mp hindex).2.symm
    rw [hsame]
  have hwords : UInt64.ofNat i = UInt64.ofNat j :=
    (UInt64.add_right_inj 1).mp ((hvalue hi).symm.trans (hvalue hj))
  simpa using congrArg UInt64.toNat hwords

/-- As long as there are words left, no handle is drawn twice. -/
theorem Issued.nodup (h : Issued handles s) (hfew : handles.length ≤ UInt64.size) :
    handles.Nodup := by
  apply List.pairwise_iff_getElem.mpr
  intro i j hi hj hlt hsame
  have hplaces : i % UInt64.size = j % UInt64.size :=
    h.apart (List.getElem?_eq_getElem hi) (hsame ▸ List.getElem?_eq_getElem hj)
  rw [Nat.mod_eq_of_lt (Nat.lt_of_lt_of_le hi hfew),
    Nat.mod_eq_of_lt (Nat.lt_of_lt_of_le hj hfew)] at hplaces
  omega

end HandleSource

end BoundedTls
