import Mathlib.Algebra.Ring.Nat
import StreamScout.Proofs.Lists
import StreamScout.Proofs.Probe.Pool

namespace StreamScout.Probe

variable {a : Answer} {s s' : Stage} {m : Move} {ms : List Move}

def Answer.ending : Answer → Ending
  | .description _ => .delivered
  | .error => .failed
  | .crash => .crashed

def Answer.report : Answer → List Move
  | .description d => [.answer (.description d), .deliver]
  | a => [.answer a]

theorem Answer.completion_eq (a : Answer) : a.completion = a.report ++ [.post, .exit] := by
  cases a <;> rfl

namespace Stage

def Course : Stage → List Move → Prop
  | .spawned, ms => ms = []
  | .describing, ms => ms = [.call]
  | .delivering d, ms => ms = [.call, .answer (.description d)]
  | .leaving e, ms => ∃ a : Answer, e = a.ending ∧ ms = .call :: a.report
  | .notified e, ms => ∃ a : Answer, e = a.ending ∧ ms = .call :: a.report ++ [.post]
  | .finished e, ms => ∃ a : Answer, e = a.ending ∧ ms = .call :: a.report ++ [.post, .exit]

theorem course_next (hc : s.Course ms) (h : s.next? m = some s') : s'.Course (ms ++ [m]) := by
  unfold next? at h
  split at h
  case h_1 =>
    cases h
    have hms : ms = [] := hc
    rw [hms]
    rfl
  case h_2 d =>
    cases h
    have hms : ms = [.call] := hc
    rw [hms]
    rfl
  case h_3 =>
    cases h
    have hms : ms = [.call] := hc
    exact ⟨.error, rfl, by rw [hms]; rfl⟩
  case h_4 =>
    cases h
    have hms : ms = [.call] := hc
    exact ⟨.crash, rfl, by rw [hms]; rfl⟩
  case h_5 d =>
    cases h
    have hms : ms = [.call, .answer (.description d)] := hc
    exact ⟨.description d, rfl, by rw [hms]; rfl⟩
  case h_6 e =>
    cases h
    obtain ⟨a, he, rfl⟩ := hc
    exact ⟨a, he, rfl⟩
  case h_7 e =>
    cases h
    obtain ⟨a, he, rfl⟩ := hc
    exact ⟨a, he, by simp⟩
  case h_8 => cases h

theorem course_prefix (hc : s.Course ms) :
    ∃ a : Answer, ms <+: .call :: a.completion ∧ (s.isFinished = true → ms = .call :: a.completion) := by
  cases s with
  | spawned =>
    have hms : ms = [] := hc
    exact ⟨.error, by rw [hms]; exact List.nil_prefix, nofun⟩
  | describing =>
    have hms : ms = [.call] := hc
    exact ⟨.error, ⟨[.answer .error, .post, .exit], by rw [hms]; rfl⟩, nofun⟩
  | delivering d =>
    have hms : ms = [.call, .answer (.description d)] := hc
    exact ⟨.description d, ⟨[.deliver, .post, .exit], by rw [hms]; rfl⟩, nofun⟩
  | leaving e =>
    obtain ⟨a, -, rfl⟩ := hc
    exact ⟨a, ⟨[.post, .exit], by simp [Answer.completion_eq]⟩, nofun⟩
  | notified e =>
    obtain ⟨a, -, rfl⟩ := hc
    exact ⟨a, ⟨[.exit], by simp [Answer.completion_eq]⟩, nofun⟩
  | finished e =>
    obtain ⟨a, -, rfl⟩ := hc
    have hms : Move.call :: a.report ++ [.post, .exit] = .call :: a.completion := by
      rw [Answer.completion_eq, List.cons_append]
    exact ⟨a, ⟨[], (List.append_nil _).trans hms⟩, fun _ => hms⟩

def left : Stage → Nat
  | .spawned => 5
  | .describing => 4
  | .delivering _ => 3
  | .leaving _ => 2
  | .notified _ => 1
  | .finished _ => 0

theorem left_next (h : s.next? m = some s') : s'.left < s.left := by
  unfold next? at h
  split at h
  all_goals first | cases h; simp [left] | cases h

end Stage

namespace Pool

def left (p : Pool) : Nat :=
  (p.workers.map (·.stage.left)).sum

theorem left_move {start : String} {p p' : Pool} {i : Nat} {es : List Effect}
    (h : p.move? start i m = some (p', es)) : p'.left < p.left := by
  obtain ⟨w, st, hw, hst, -, rfl⟩ := move_cases h
  obtain ⟨front, back, hs, hset⟩ := exists_set_split hw
  have hlt := Stage.left_next hst
  simp only [left, hset]
  rw [hs]
  simpa using hlt

end Pool

end StreamScout.Probe
