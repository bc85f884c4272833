import LeafSwitch.Data.Shown

/-!
# Which values are shown

There are two causes for which a value is not shown: a whole number somewhere in it is too long, or
something lies too deep in its sequences and mappings. A value in which there is neither is shown.
-/

namespace LeafSwitch.Value

/-- A value lies in another, so many sequences and mappings deep. -/
inductive LiesIn : Nat → Value → Value → Prop where
  /-- A value lies in itself. -/
  | self (v : Value) : LiesIn 0 v v
  /-- What lies in an item lies in the sequence. -/
  | item {depth : Nat} {v w : Value} {items : List Value} (hw : w ∈ items) (h : LiesIn depth v w) :
      LiesIn (depth + 1) v (.list items)
  /-- What lies in a key lies in the mapping. -/
  | key {depth : Nat} {v w : Value} {entries : List (Value × Value)}
      (hw : w ∈ entries.map Prod.fst) (h : LiesIn depth v w) : LiesIn (depth + 1) v (.map entries)
  /-- What lies behind a key lies in the mapping. -/
  | entry {depth : Nat} {v w : Value} {entries : List (Value × Value)}
      (hw : w ∈ entries.map Prod.snd) (h : LiesIn depth v w) : LiesIn (depth + 1) v (.map entries)

/-- There is a cause in a value for which it is not shown, where `room` tells how deep a call may
still go. -/
def Exceeds (room : Nat) (v : Value) : ShowError → Prop
  | .tooLong => ∃ depth n, LiesIn depth (.int n) v ∧ shownLimit ≤ n.natAbs
  | .tooDeep => ∃ w, LiesIn room w v

section Exceeds

variable {room : Nat} {v w : Value} {cause : ShowError}

/-- A cause in one value is a cause in another, in which whatever lies in the first lies deeper. -/
theorem Exceeds.deeper (hdeeper : ∀ {depth : Nat} {u : Value}, LiesIn depth u w →
    LiesIn (depth + 1) u v) (h : w.Exceeds room cause) : v.Exceeds (room + 1) cause := by
  cases cause with
  | tooLong =>
    obtain ⟨depth, n, hn, hlong⟩ := h
    exact ⟨depth + 1, n, hdeeper hn, hlong⟩
  | tooDeep =>
    obtain ⟨u, hu⟩ := h
    exact ⟨u, hdeeper hu⟩

/-- A whole number that is not written out is too long. -/
theorem exceeds_of_wholeText {n : Int} (h : wholeText n = .error cause) :
    (Value.int n).Exceeds room cause := by
  by_cases hshort : n.natAbs < shownLimit
  · have hok : wholeText n = .ok (toString n) := if_pos hshort
    rw [hok] at h
    cases h
  · have herror : wholeText n = .error .tooLong := if_neg hshort
    obtain rfl := Except.error.inj (herror.symm.trans h)
    exact ⟨0, n, .self _, Nat.not_lt.mp hshort⟩

end Exceeds

mutual

/-- Where a value is not shown, there is a cause in it. -/
theorem exceeds_of_shown : ∀ (room : Nat) (v : Value) (cause : ShowError),
    v.shown room = .error cause → v.Exceeds room cause
  | 0, v, cause, h => by
    rw [shown] at h
    obtain rfl := Except.error.inj h
    exact ⟨v, .self v⟩
  | room + 1, v, cause, h => by
    cases v with
    | int n =>
      rw [shown] at h
      exact exceeds_of_wholeText h
    | list items =>
      rw [shown] at h
      cases hitems : shownItems room items with
      | ok texts =>
        rw [hitems] at h
        cases h
      | error e =>
        rw [hitems] at h
        obtain rfl := Except.error.inj h
        obtain ⟨w, hw, hexceeds⟩ := exists_item_exceeds room items e hitems
        exact hexceeds.deeper (.item hw)
    | map entries =>
      rw [shown] at h
      cases hentries : shownEntries room entries with
      | ok texts =>
        rw [hentries] at h
        cases h
      | error e =>
        rw [hentries] at h
        obtain rfl := Except.error.inj h
        rcases exists_entry_exceeds room entries e hentries with
          ⟨w, hw, hexceeds⟩ | ⟨w, hw, hexceeds⟩
        · exact hexceeds.deeper (.key hw)
        · exact hexceeds.deeper (.entry hw)
    | null | bool | float | str | other =>
      rw [shown] at h
      cases h

/-- Where items are not shown, there is a cause in one of them. -/
theorem exists_item_exceeds : ∀ (room : Nat) (items : List Value) (cause : ShowError),
    shownItems room items = .error cause → ∃ w ∈ items, w.Exceeds room cause
  | _, [], _, h => nomatch h
  | room, v :: vs, cause, h => by
    rw [shownItems] at h
    cases hv : v.shown room with
    | error e =>
      rw [hv] at h
      obtain rfl := Except.error.inj h
      exact ⟨v, List.mem_cons_self, exceeds_of_shown room v e hv⟩
    | ok text =>
      cases hvs : shownItems room vs with
      | ok texts =>
        rw [hv, hvs] at h
        cases h
      | error e =>
        rw [hv, hvs] at h
        obtain rfl := Except.error.inj h
        obtain ⟨w, hw, hexceeds⟩ := exists_item_exceeds room vs e hvs
        exact ⟨w, List.mem_cons_of_mem v hw, hexceeds⟩

/-- Where entries are not shown, there is a cause in a key or behind one. -/
theorem exists_entry_exceeds : ∀ (room : Nat) (entries : List (Value × Value)) (cause : ShowError),
    shownEntries room entries = .error cause →
      (∃ w ∈ entries.map Prod.fst, w.Exceeds room cause) ∨
        ∃ w ∈ entries.map Prod.snd, w.Exceeds room cause
  | _, [], _, h => nomatch h
  | room, (k, v) :: rest, cause, h => by
    rw [shownEntries] at h
    cases hk : k.shown room with
    | error e =>
      rw [hk] at h
      obtain rfl := Except.error.inj h
      exact Or.inl ⟨k, List.mem_cons_self, exceeds_of_shown room k e hk⟩
    | ok key =>
      cases hv : v.shown room with
      | error e =>
        rw [hk, hv] at h
        obtain rfl := Except.error.inj h
        exact Or.inr ⟨v, List.mem_cons_self, exceeds_of_shown room v e hv⟩
      | ok text =>
        cases hrest : shownEntries room rest with
        | ok texts =>
          rw [hk, hv, hrest] at h
          cases h
        | error e =>
          rw [hk, hv, hrest] at h
          obtain rfl := Except.error.inj h
          refine (exists_entry_exceeds room rest e hrest).imp ?_ ?_
          · exact fun ⟨w, hw, hexceeds⟩ => ⟨w, List.mem_cons_of_mem k hw, hexceeds⟩
          · exact fun ⟨w, hw, hexceeds⟩ => ⟨w, List.mem_cons_of_mem v hw, hexceeds⟩

end

/-- A list of items is not shown where one of them is not. -/
theorem exists_error_of_mem {room : Nat} {items : List Value} {w : Value} (hw : w ∈ items)
    (h : ∃ e, w.shown room = .error e) : ∃ e, shownItems room items = .error e := by
  induction items with
  | nil => exact absurd hw List.not_mem_nil
  | cons v vs ih =>
    rw [shownItems]
    cases hv : v.shown room with
    | error e => exact ⟨e, rfl⟩
    | ok text =>
      rcases List.mem_cons.mp hw with rfl | hw
      · obtain ⟨e, herror⟩ := h
        rw [hv] at herror
        cases herror
      · obtain ⟨e, herror⟩ := ih hw
        exact ⟨e, by rw [herror]; rfl⟩

/-- Entries are not shown where a key or what is behind one is not. -/
theorem exists_error_of_mem_entries {room : Nat} {entries : List (Value × Value)} {w : Value}
    (hw : w ∈ entries.map Prod.fst ∨ w ∈ entries.map Prod.snd)
    (h : ∃ e, w.shown room = .error e) : ∃ e, shownEntries room entries = .error e := by
  induction entries with
  | nil => exact hw.elim (absurd · List.not_mem_nil) (absurd · List.not_mem_nil)
  | cons p rest ih =>
    obtain ⟨k, v⟩ := p
    rw [shownEntries]
    cases hk : k.shown room with
    | error e => exact ⟨e, rfl⟩
    | ok key =>
      cases hv : v.shown room with
      | error e => exact ⟨e, rfl⟩
      | ok text =>
        have hshown : w ≠ k ∧ w ≠ v := by
          obtain ⟨e, herror⟩ := h
          constructor
          · rintro rfl
            cases hk.symm.trans herror
          · rintro rfl
            cases hv.symm.trans herror
        have hrest : w ∈ rest.map Prod.fst ∨ w ∈ rest.map Prod.snd :=
          hw.imp (fun hmem => (List.mem_cons.mp hmem).resolve_left hshown.1)
            (fun hmem => (List.mem_cons.mp hmem).resolve_left hshown.2)
        obtain ⟨e, herror⟩ := ih hrest
        exact ⟨e, by rw [herror]; rfl⟩

/-- A value is not shown where what lies in it is not, with as much less room as it lies deep. -/
theorem LiesIn.exists_error {depth : Nat} {v w : Value} (h : LiesIn depth v w) {room : Nat}
    (hv : ∃ e, v.shown (room - depth) = .error e) : ∃ e, w.shown room = .error e := by
  induction h generalizing room with
  | self => exact hv
  | item hw _ ih =>
    cases room with
    | zero => exact ⟨_, by rw [shown]⟩
    | succ room =>
      rw [Nat.add_sub_add_right] at hv
      obtain ⟨e, herror⟩ := exists_error_of_mem hw (ih hv)
      exact ⟨e, by rw [shown, herror]; rfl⟩
  | key hw _ ih =>
    cases room with
    | zero => exact ⟨_, by rw [shown]⟩
    | succ room =>
      rw [Nat.add_sub_add_right] at hv
      obtain ⟨e, herror⟩ := exists_error_of_mem_entries (Or.inl hw) (ih hv)
      exact ⟨e, by rw [shown, herror]; rfl⟩
  | entry hw _ ih =>
    cases room with
    | zero => exact ⟨_, by rw [shown]⟩
    | succ room =>
      rw [Nat.add_sub_add_right] at hv
      obtain ⟨e, herror⟩ := exists_error_of_mem_entries (Or.inr hw) (ih hv)
      exact ⟨e, by rw [shown, herror]; rfl⟩

/-- A value with a cause in it is not shown. -/
theorem Exceeds.exists_error {room : Nat} {v : Value} {cause : ShowError}
    (h : v.Exceeds room cause) : ∃ e, v.shown room = .error e := by
  cases cause with
  | tooLong =>
    obtain ⟨depth, n, hn, hlong⟩ := h
    refine hn.exists_error ⟨?_, ?_⟩
    · exact if room - depth = 0 then .tooDeep else .tooLong
    · cases room - depth with
      | zero => rw [shown, if_pos rfl]
      | succ inner =>
        rw [shown, if_neg (Nat.succ_ne_zero inner)]
        exact if_neg (Nat.not_lt.mpr hlong)
  | tooDeep =>
    obtain ⟨w, hw⟩ := h
    refine hw.exists_error ⟨.tooDeep, ?_⟩
    rw [Nat.sub_self, shown]

/-- A value is shown exactly where there is no cause in it against that. -/
theorem exists_shown_iff {room : Nat} {v : Value} :
    (∃ text, v.shown room = .ok text) ↔ ∀ cause, ¬v.Exceeds room cause := by
  constructor
  · rintro ⟨text, htext⟩ cause hexceeds
    obtain ⟨e, herror⟩ := hexceeds.exists_error
    cases htext.symm.trans herror
  · intro hnone
    cases h : v.shown room with
    | ok text => exact ⟨text, rfl⟩
    | error cause => exact absurd (exceeds_of_shown room v cause h) (hnone cause)

/-- Where the text of a value is not to be had, there is a cause in it. -/
theorem exceeds_of_text {room : Nat} {v : Value} {cause : ShowError}
    (h : v.text room = .error cause) : v.Exceeds room cause := by
  cases v with
  | str | other => cases h
  | null | bool | int | float | list | map => exact exceeds_of_shown room _ cause h

end LeafSwitch.Value
