import AntiFlock.Enforcement.Durable

set_option autoImplicit false

/-!
# Completing a reserved plan

The durable store never forgets a plan, and one file bounds all of them. A
reserved plan can be completed exactly if the state with its result still fits
the file; nothing reserves that room when the plan is granted.
-/
namespace AntiFlock.Enforcement
open AntiFlock.Effect AntiFlock.Go

section Pending
variable {Result : Type} {format : ResultFormat Result} {file : StateFile} {state : FileState}

theorem fileReserve_cases (hload : load format file = .ok state) (ctx : Context) (reservation : Reservation) :
    ((fileReserve format file ctx reservation).2 = file ∧ (fileReserve format file ctx reservation).1 ≠ .ok none) ∨
      ∃ state', validateReservation reservation = true ∧ state.reserve format reservation = .save state' ∧
        fileReserve format file ctx reservation = (.ok none, some state') ∧
        load format (some state') = .ok state' := by
  unfold fileReserve
  split
  · exact .inl ⟨rfl, by rintro ⟨⟩⟩
  · rename_i hvalid
    rw [Bool.not_eq_true', Bool.not_eq_false] at hvalid
    cases ctx with
    | some text => exact .inl ⟨rfl, by rintro ⟨⟩⟩
    | none =>
      simp only [hload]
      cases hdecides : state.reserve format reservation with
      | answer answer =>
        refine .inl ⟨rfl, fun hgranted => ?_⟩
        change answer = .ok none at hgranted
        subst hgranted
        unfold FileState.reserve at hdecides
        split at hdecides
        · split at hdecides
          · cases hdecides
          · split at hdecides
            · cases hdecides
            · split at hdecides
              · cases hdecides
              · split at hdecides
                · cases hdecides
                · cases hdecides
        · split at hdecides
          · cases hdecides
          · cases hdecides
      | save state' =>
        have hsound := ((load_ok hload).1.reserve hvalid hdecides).2.1
        by_cases hsize : state'.size ≤ maximumFileStateBytes
        · exact .inr ⟨state', hvalid, rfl, settle_save hsound hsize, load_saved hsound hsize⟩
        · refine .inl ?_
          rw [settle, save_sound hsound, if_neg hsize]
          exact ⟨rfl, by rintro ⟨⟩⟩

theorem fileComplete_cases (hload : load format file = .ok state) (ctx : Context) (result : Option Result) :
    (fileComplete format file ctx result).2 = file ∨
      ∃ completed canonical state', result = some completed ∧ format.unknownFields completed = false ∧
        format.marshal completed = some canonical ∧ state.complete format completed canonical = .save state' ∧
        (fileComplete format file ctx result).2 = some state' ∧ load format (some state') = .ok state' := by
  cases result with
  | none => exact .inl rfl
  | some completed =>
    simp only [fileComplete]
    split
    · exact .inl rfl
    · cases ctx with
      | some text => exact .inl rfl
      | none =>
        cases hknown : format.unknownFields completed with
        | true => exact .inl rfl
        | false =>
          cases hcanonical : format.marshal completed with
          | none => exact .inl rfl
          | some canonical =>
            simp only [hload]
            cases hdecides : state.complete format completed canonical with
            | answer answer => exact .inl rfl
            | save state' =>
              obtain ⟨-, -, -, -, hsound, -⟩ := (load_ok hload).1.complete hknown hcanonical hdecides
              by_cases hsize : state'.size ≤ maximumFileStateBytes
              · refine .inr ⟨completed, canonical, state', rfl, hknown, hcanonical, hdecides, ?_,
                  load_saved hsound hsize⟩
                simp [settle_save hsound hsize]
              · refine .inl ?_
                simp [settle, save_sound hsound, hsize]

def Spares (format : ResultFormat Result) (id : String) : StateCall Result → Prop
  | .reserve _ _ => True
  | .complete _ result => ∀ completed, result = some completed → format.planID completed ≠ id

def Pending (format : ResultFormat Result) (reservation : Reservation) (file : StateFile) : Prop :=
  ∃ state, load format file = .ok state ∧ state.records.lookup reservation.planID = some ⟨reservation, []⟩

theorem Pending.step {reservation : Reservation} (h : Pending format reservation file) {call : StateCall Result}
    (hcall : Spares format reservation.planID call) : Pending format reservation (fileStep format file call).2 := by
  obtain ⟨state, hload, hrecord⟩ := h
  have hsame {file' : StateFile} (heq : file' = file) : Pending format reservation file' :=
    ⟨state, heq ▸ hload, hrecord⟩
  cases call with
  | reserve ctx other =>
    rcases fileReserve_cases hload ctx other with ⟨hfile, -⟩ | ⟨state', hvalid, hsave, hstep, hload'⟩
    · exact hsame hfile
    · obtain ⟨habsent, -, hnew⟩ := (load_ok hload).1.reserve hvalid hsave
      refine ⟨state', ?_, ?_⟩
      · simp only [fileStep, hstep]
        exact hload'
      · rw [hnew]
        change (state.records.insert other.planID _).lookup reservation.planID = _
        rw [Map.lookup_insert_eq_ite, if_neg, hrecord]
        rintro heq
        rw [← heq, hrecord] at habsent
        cases habsent
  | complete ctx result =>
    rcases fileComplete_cases hload ctx result with hfile | ⟨completed, canonical, state', hresult, hknown,
      hcanonical, hsave, hfile, hload'⟩
    · exact hsame hfile
    · obtain ⟨record, -, -, -, -, hnew⟩ := (load_ok hload).1.complete hknown hcanonical hsave
      refine ⟨state', ?_, ?_⟩
      · simp only [fileStep, hfile]
        exact hload'
      · rw [hnew]
        change (state.records.insert (format.planID completed) _).lookup reservation.planID = _
        rw [Map.lookup_insert_eq_ite, if_neg (hcall completed hresult).symm, hrecord]

theorem Pending.final {reservation : Reservation} (h : Pending format reservation file)
    {calls : List (StateCall Result)} (hcalls : ∀ call ∈ calls, Spares format reservation.planID call) :
    Pending format reservation (final (fileStep format) file calls) := by
  induction calls generalizing file with
  | nil => exact h
  | cons call calls ih =>
    exact ih (h.step (hcalls call List.mem_cons_self)) fun other hother =>
      hcalls other (List.mem_cons_of_mem _ hother)

end Pending

end AntiFlock.Enforcement
