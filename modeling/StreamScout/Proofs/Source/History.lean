import StreamScout.Proofs.Source.Calls
import StreamScout.Proofs.Source.Table

namespace StreamScout.Source

variable {τ : Type} {t : Table τ} {s : Source τ} {calls : List (Call τ)} {now : τ} {name domain : String}
  {key : String × String} {d : Rtsp.Description}

def Entry (calls : List (Call τ)) (s : Source τ) : Prop :=
  lastCall? s.key calls = some (.deliver s.lastSeen s.name s.domain ⟨s.url, s.sdp, s.sessionName⟩) ∧
    Since calls s.key s.firstSeen

theorem not_entry_nil : ¬ Entry [] s := by
  rintro ⟨hlast, -⟩
  simp [lastCall?] at hlast

theorem exists_entry (h : ¬ Absent key calls) : ∃ s : Source τ, s.key = key ∧ Entry calls s := by
  obtain ⟨now, d, hlast⟩ := not_absent h
  obtain ⟨first, hsince⟩ := exists_since h
  exact ⟨⟨key.1, key.2, d.url, d.sdp, d.sessionName, first, now⟩, rfl, hlast, hsince⟩

theorem entry_snoc_other {c : Call τ} (h : c.key ≠ s.key) : Entry (calls ++ [c]) s ↔ Entry calls s := by
  rw [Entry, Entry, lastCall?_snoc_other h, since_snoc_other h]

theorem not_entry_snoc_remove (h : s.key = (name, domain)) : ¬ Entry (calls ++ [.remove name domain]) s := by
  rintro ⟨-, hsince⟩
  rw [h] at hsince
  exact absurd absent_remove hsince.not_absent

def Describes (now : τ) (d : Rtsp.Description) (s : Source τ) : Prop :=
  s.url = d.url ∧ s.sdp = d.sdp ∧ s.sessionName = d.sessionName ∧ s.lastSeen = now

theorem entry_snoc_deliver (h : s.key = (name, domain)) :
    Entry (calls ++ [.deliver now name domain d]) s ↔
      Describes now d s ∧
        (Since calls (name, domain) s.firstSeen ∨ Absent (name, domain) calls ∧ s.firstSeen = now) := by
  have hlast : lastCall? (name, domain) (calls ++ [.deliver now name domain d]) =
      some (.deliver now name domain d) := lastCall?_snoc_same rfl
  have hsince : Since (calls ++ [.deliver now name domain d]) (name, domain) s.firstSeen ↔
      Since calls (name, domain) s.firstSeen ∨ Absent (name, domain) calls ∧ s.firstSeen = now :=
    @since_snoc_deliver τ (name, domain) calls s.firstSeen now d
  rw [Entry, h, hlast, hsince]
  cases h
  refine and_congr_left fun _ => ?_
  simp only [Option.some.injEq, Call.deliver.injEq, true_and, Describes]
  constructor
  · rintro ⟨hnow, rfl⟩
    exact ⟨rfl, rfl, rfl, hnow.symm⟩
  · rintro ⟨hurl, hsdp, hname, hnow⟩
    exact ⟨hnow.symm, by rw [hurl, hsdp, hname]⟩

theorem eq_delivered_iff (h : s.key = (name, domain)) :
    s = t.delivered now name domain d ↔
      Describes now d s ∧ s.firstSeen = ((t.find? name domain).map firstSeen).getD now := by
  cases h
  constructor
  · intro heq
    rw [heq]
    exact ⟨⟨rfl, rfl, rfl, rfl⟩, rfl⟩
  · rintro ⟨⟨hurl, hsdp, hname, hnow⟩, hfirst⟩
    rw [Table.delivered, ← hurl, ← hsdp, ← hname, ← hfirst, ← hnow]

structure Refines (calls : List (Call τ)) (t : Table τ) : Prop where
  found : ∀ name domain s, t.find? name domain = some s ↔ (s.name = name ∧ s.domain = domain) ∧ Entry calls s
  present : ∀ name domain, (t.find? name domain).isSome ↔
    ∃ now d, lastCall? (name, domain) calls = some (.deliver now name domain d)
  listed : ∀ s, s ∈ t.all ↔ Entry calls s
  ordered : t.all.Pairwise fun s s' => keyLt s.key s'.key
  fresh : t.published = digest t.all
  announced : ∀ c : Call τ, Table.Announces t (c.perform t)

structure Held (calls : List (Call τ)) (t : Table τ) : Prop where
  keys : t.keys.Nodup
  entries : ∀ s, s ∈ t.entries ↔ Entry calls s
  fresh : t.Fresh

theorem held_nil : Held [] ({} : Table τ) where
  keys := List.nodup_nil
  entries s := by simp [not_entry_nil]
  fresh := Table.fresh_empty

theorem Held.find?_iff (h : Held calls t) (s : Source τ) :
    t.find? name domain = some s ↔ Entry calls s ∧ s.key = (name, domain) := by
  rw [Table.find?_iff h.keys, h.entries]

theorem Held.absent (h : Held calls t) (hfind : t.find? name domain = none) : Absent (name, domain) calls := by
  by_contra habsent
  obtain ⟨s, hkey, hs⟩ := exists_entry habsent
  exact Table.find?_none.mp hfind s ((h.entries s).mpr hs) hkey

theorem Held.first_iff (h : Held calls t) {first : τ} :
    first = ((t.find? name domain).map firstSeen).getD now ↔
      Since calls (name, domain) first ∨ Absent (name, domain) calls ∧ first = now := by
  cases hfind : t.find? name domain with
  | none =>
    have habsent := h.absent hfind
    have hsince : ¬ Since calls (name, domain) first := fun hs => hs.not_absent habsent
    simp [habsent, hsince]
  | some old =>
    obtain ⟨⟨-, hold⟩, hkey⟩ := (h.find?_iff old).mp hfind
    rw [hkey] at hold
    constructor
    · rintro rfl
      exact .inl hold
    · rintro (hs | ⟨habsent, -⟩)
      · exact hs.unique hold
      · exact absurd habsent hold.not_absent

theorem held_remove (h : Held calls t) :
    Held (calls ++ [.remove name domain]) (t.remove name domain) where
  keys := Table.nodup_remove h.keys
  fresh := Table.fresh_remove h.fresh
  entries s := by
    rw [Table.mem_remove, h.entries]
    by_cases hkey : s.key = (name, domain)
    · exact ⟨fun hs => absurd hkey hs.2, fun hs => absurd hs (not_entry_snoc_remove hkey)⟩
    · have hother : (Call.remove name domain : Call τ).key ≠ s.key := Ne.symm hkey
      rw [entry_snoc_other hother]
      exact and_iff_left hkey

theorem held_deliver (h : Held calls t) :
    Held (calls ++ [.deliver now name domain d]) (t.deliver now name domain d) where
  keys := Table.nodup_deliver h.keys
  fresh := Table.fresh_deliver h.keys h.fresh
  entries s := by
    rw [Table.mem_deliver h.keys, h.entries]
    by_cases hkey : s.key = (name, domain)
    · -- for its own key a delivery decides everything but the time of the first one
      rw [entry_snoc_deliver hkey, ← h.first_iff, ← eq_delivered_iff hkey]
      exact or_iff_left fun hs => hs.2 hkey
    · have hother : (Call.deliver now name domain d).key ≠ s.key := Ne.symm hkey
      have hne : s ≠ t.delivered now name domain d := fun heq => hkey (heq ▸ rfl)
      rw [entry_snoc_other hother]
      simp [hne, hkey]

theorem held_perform (h : Held calls t) (c : Call τ) : Held (calls ++ [c]) (c.perform t) := by
  cases c with
  | deliver now name domain d => exact held_deliver h
  | remove name domain => exact held_remove h

def Table.after (calls : List (Call τ)) : Table τ :=
  calls.foldl Call.perform {}

theorem held_after (calls : List (Call τ)) : Held calls (Table.after calls) := by
  induction calls using List.reverseRecOn with
  | nil => exact held_nil
  | append_singleton calls c ih =>
    have h := held_perform ih c
    simpa [Table.after] using h

theorem announces_perform (hk : t.keys.Nodup) (c : Call τ) : Table.Announces t (c.perform t) := by
  cases c with
  | deliver now name domain d => exact Table.announces_deliver hk
  | remove name domain => exact Table.announces_remove

theorem Held.present (h : Held calls t) : (t.find? name domain).isSome ↔
    ∃ now d, lastCall? (name, domain) calls = some (.deliver now name domain d) := by
  constructor
  · intro hsome
    obtain ⟨s, hfind⟩ := Option.isSome_iff_exists.mp hsome
    obtain ⟨⟨hlast, -⟩, hkey⟩ := (h.find?_iff s).mp hfind
    rw [hkey] at hlast
    cases hkey
    exact ⟨_, _, hlast⟩
  · rintro ⟨now, d, hlast⟩
    by_contra hnone
    have habsent := h.absent (Option.not_isSome_iff_eq_none.mp hnone)
    exact absurd (habsent _ hlast) (by simp [Call.isDelivery])

theorem table_refines (calls : List (Call τ)) : Refines calls (Table.after calls) where
  found name domain s := by
    rw [(held_after calls).find?_iff, and_comm, Source.key, Prod.mk.injEq]
  present name domain := (held_after calls).present
  listed s := by rw [Table.mem_all, (held_after calls).entries]
  ordered := sort_strict (held_after calls).keys
  fresh := (held_after calls).fresh
  announced c := announces_perform (held_after calls).keys c

end StreamScout.Source
