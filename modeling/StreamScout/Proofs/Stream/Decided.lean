import StreamScout.Proofs.Stream.Line

namespace StreamScout.Stream.Plan

variable {α : Type} {plan : Plan α} {bound bound' limit count : Nat} {next : List UInt8 → Plan α} {bs : List UInt8}
  {v : α}

theorem decided?_append (h : plan.decided? bs = some v) (more : List UInt8) :
    plan.decided? (bs ++ more) = some v := by
  induction plan generalizing bs with
  | answer w => exact h
  | line limit next ih =>
    rw [decided?] at h ⊢
    obtain ⟨hcomplete, hnext⟩ := Option.ite_none_right_eq_some.mp h
    rw [takeLine_append_of_complete rfl hcomplete, if_pos hcomplete]
    exact ih _ hnext
  | exactly count next ih =>
    rw [decided?] at h ⊢
    obtain ⟨hlong, hnext⟩ := Option.ite_none_right_eq_some.mp h
    rw [List.take_append_of_le_length hlong, List.drop_append_of_le_length hlong,
      if_pos (by rw [List.length_append]; exact Nat.le_add_right_of_le hlong)]
    exact ih _ hnext

theorem run_of_decided? (h : plan.decided? bs = some v) : plan.run bs = v := by
  induction plan generalizing bs with
  | answer w => exact Option.some.inj h
  | line limit next ih =>
    rw [decided?] at h
    exact ih _ (Option.ite_none_right_eq_some.mp h).2
  | exactly count next ih =>
    rw [decided?] at h
    exact ih _ (Option.ite_none_right_eq_some.mp h).2

def Within (bound : Nat) (plan : Plan α) : Prop :=
  ∀ bs, bound ≤ bs.length → ∃ v, plan.decided? bs = some v

theorem Within.mono (h : plan.Within bound) (hle : bound ≤ bound') : plan.Within bound' :=
  fun bs hbs => h bs (Nat.le_trans hle hbs)

theorem within_answer (bound : Nat) (v : α) : (answer v).Within bound :=
  fun _ _ => ⟨v, rfl⟩

theorem within_line (h : ∀ line, (next line).Within bound) : (line limit next).Within (limit + bound) := by
  intro bs hbs
  have hcomplete : lineComplete limit (takeLine limit bs).1 = true := lineComplete_takeLine (by omega)
  have hlength := congrArg List.length (takeLine_append limit bs)
  have hshort := takeLine_length limit bs
  rw [List.length_append] at hlength
  rw [decided?, if_pos hcomplete]
  exact h _ _ (by omega)

theorem within_exactly (h : ∀ part, (next part).Within bound) : (exactly count next).Within (count + bound) := by
  intro bs hbs
  rw [decided?, if_pos (by omega)]
  exact h _ _ (by rw [List.length_drop]; omega)

end StreamScout.Stream.Plan
