import Mathlib.Data.List.Nodup
import Mathlib.Data.Set.Basic
import StreamScout.Proofs.Source.Order
import StreamScout.Source.Table

namespace StreamScout.Source

variable {τ : Type} {t : Table τ} {s : Source τ} {now : τ} {name domain : String}
  {d : Rtsp.Description}

namespace Table

def keys (t : Table τ) : List (String × String) :=
  t.entries.map key

def contents (t : Table τ) : Set (String × String × String × String) :=
  {q | ∃ s ∈ t.all, s.content = q}

theorem mem_all : s ∈ t.all ↔ s ∈ t.entries :=
  mem_sort

theorem mem_contents {q : String × String × String × String} :
    q ∈ t.contents ↔ ∃ s ∈ t.entries, s.content = q := by
  simp only [contents, Set.mem_ofPred_eq, mem_all]

theorem key_eq_iff : (s.name == name && s.domain == domain) = true ↔ s.key = (name, domain) := by
  simp [key]

theorem key_of_content {s s' : Source τ} (h : s.content = s'.content) : s.key = s'.key := by
  simp only [content, Prod.mk.injEq] at h
  simp [key, h]

theorem eq_of_key (hk : t.keys.Nodup) {s' : Source τ} (hs : s ∈ t.entries) (hs' : s' ∈ t.entries)
    (h : s.key = s'.key) : s = s' :=
  List.inj_on_of_nodup_map hk hs hs' h

theorem mem_of_find? (h : t.find? name domain = some s) : s ∈ t.entries ∧ s.key = (name, domain) := by
  rw [find?] at h
  have hkey := List.find?_some h
  exact ⟨List.mem_of_find?_eq_some h, key_eq_iff.mp hkey⟩

theorem find?_none : t.find? name domain = none ↔ ∀ s ∈ t.entries, s.key ≠ (name, domain) := by
  simp only [find?, List.find?_eq_none, key_eq_iff]

theorem find?_iff (hk : t.keys.Nodup) :
    t.find? name domain = some s ↔ s ∈ t.entries ∧ s.key = (name, domain) := by
  constructor
  · exact mem_of_find?
  · rintro ⟨hs, hkey⟩
    cases hfind : t.find? name domain with
    | none => exact absurd hkey (find?_none.mp hfind s hs)
    | some s' =>
      obtain ⟨hs', hkey'⟩ := mem_of_find? hfind
      rw [eq_of_key hk hs' hs (hkey'.trans hkey.symm)]

def delivered (now : τ) (name domain : String) (d : Rtsp.Description) (t : Table τ) : Source τ :=
  ⟨name, domain, d.url, d.sdp, d.sessionName, ((t.find? name domain).map firstSeen).getD now, now⟩

theorem delivered_none (h : t.find? name domain = none) :
    t.delivered now name domain d = ⟨name, domain, d.url, d.sdp, d.sessionName, now, now⟩ := by
  simp [delivered, h]

theorem delivered_some {old : Source τ} (h : t.find? name domain = some old) :
    t.delivered now name domain d = renew now d old := by
  obtain ⟨-, hkey⟩ := mem_of_find? h
  cases hkey
  simp [delivered, h, renew]

def renewed (now : τ) (name domain : String) (d : Rtsp.Description) (s : Source τ) : Source τ :=
  if s.name == name && s.domain == domain then renew now d s else s

theorem renewed_same (h : s.key = (name, domain)) : renewed now name domain d s = renew now d s :=
  if_pos (key_eq_iff.mpr h)

theorem renewed_other (h : s.key ≠ (name, domain)) : renewed now name domain d s = s :=
  if_neg (mt key_eq_iff.mp h)

theorem renewed_key (s : Source τ) : (renewed now name domain d s).key = s.key := by
  unfold renewed
  split <;> rfl

theorem deliver_none (h : t.find? name domain = none) :
    t.deliver now name domain d =
      publish { t with entries := t.entries ++ [t.delivered now name domain d] } := by
  simp only [deliver, h, delivered_none h]

theorem deliver_some {old : Source τ} (h : t.find? name domain = some old) :
    t.deliver now name domain d =
      if old.url ≠ d.url ∨ old.sdp ≠ d.sdp then
        publish { t with entries := t.entries.map (renewed now name domain d) }
      else { t with entries := t.entries.map (renewed now name domain d) } := by
  simp only [deliver, h]
  rfl

theorem deliver_entries {old : Source τ} (h : t.find? name domain = some old) :
    (t.deliver now name domain d).entries = t.entries.map (renewed now name domain d) := by
  rw [deliver_some h]
  split <;> rfl

theorem remove_none (h : t.find? name domain = none) : t.remove name domain = t := by
  simp only [remove, h]

theorem remove_some {old : Source τ} (h : t.find? name domain = some old) :
    t.remove name domain =
      publish { t with entries := t.entries.filter fun s => !(s.name == name && s.domain == domain) } := by
  simp only [remove, h]

theorem nodup_deliver (hk : t.keys.Nodup) : (t.deliver now name domain d).keys.Nodup := by
  cases h : t.find? name domain with
  | none =>
    have hnew : (t.delivered now name domain d).key ∉ t.keys := by
      rw [keys, List.mem_map]
      rintro ⟨s, hs, hkey⟩
      exact find?_none.mp h s hs hkey
    rw [deliver_none h]
    have happ : (t.keys ++ [(t.delivered now name domain d).key]).Nodup :=
      List.nodup_append.mpr ⟨hk, List.nodup_singleton _, fun a ha b hb => by
        rw [List.mem_singleton.mp hb]
        exact fun heq => hnew (heq ▸ ha)⟩
    simpa [keys, publish] using happ
  | some old =>
    have hmap : (t.entries.map (renewed now name domain d)).map key = t.entries.map key := by
      simp [renewed_key]
    rw [keys, deliver_entries h, hmap]
    exact hk

theorem nodup_remove (hk : t.keys.Nodup) : (t.remove name domain).keys.Nodup := by
  cases h : t.find? name domain with
  | none => rwa [remove_none h]
  | some old =>
    rw [remove_some h]
    exact hk.sublist (List.filter_sublist.map key)

theorem mem_deliver (hk : t.keys.Nodup) :
    s ∈ (t.deliver now name domain d).entries ↔
      s = t.delivered now name domain d ∨ s ∈ t.entries ∧ s.key ≠ (name, domain) := by
  cases h : t.find? name domain with
  | none =>
    rw [deliver_none h]
    simp only [publish, List.mem_append, List.mem_singleton]
    constructor
    · rintro (hs | rfl)
      · exact .inr ⟨hs, find?_none.mp h s hs⟩
      · exact .inl rfl
    · rintro (rfl | ⟨hs, -⟩)
      · exact .inr rfl
      · exact .inl hs
  | some old =>
    obtain ⟨hold, hkey⟩ := mem_of_find? h
    rw [deliver_entries h, List.mem_map, delivered_some h]
    constructor
    · rintro ⟨s, hs, rfl⟩
      by_cases hs' : s.key = (name, domain)
      · rw [renewed_same hs', eq_of_key hk hs hold (hs'.trans hkey.symm)]
        exact .inl rfl
      · rw [renewed_other hs']
        exact .inr ⟨hs, hs'⟩
    · rintro (rfl | ⟨hs, hs'⟩)
      · exact ⟨old, hold, renewed_same hkey⟩
      · exact ⟨s, hs, renewed_other hs'⟩

theorem mem_remove : s ∈ (t.remove name domain).entries ↔ s ∈ t.entries ∧ s.key ≠ (name, domain) := by
  cases h : t.find? name domain with
  | none =>
    rw [remove_none h]
    exact ⟨fun hs => ⟨hs, find?_none.mp h s hs⟩, And.left⟩
  | some old =>
    rw [remove_some h]
    simp only [publish, List.mem_filter, Bool.not_eq_true', ← Bool.not_eq_true, key_eq_iff, ne_eq]

theorem contents_deliver_new (hk : t.keys.Nodup)
    (hnew : (t.delivered now name domain d).content ∉ t.contents) :
    (t.deliver now name domain d).contents ≠ t.contents := by
  intro heq
  have hin : (t.delivered now name domain d).content ∈ (t.deliver now name domain d).contents :=
    mem_contents.mpr ⟨_, (mem_deliver hk).mpr (.inl rfl), rfl⟩
  exact hnew (heq ▸ hin)

theorem delivered_new_of_none (h : t.find? name domain = none) :
    (t.delivered now name domain d).content ∉ t.contents := by
  intro hin
  obtain ⟨s, hs, hcontent⟩ := mem_contents.mp hin
  exact find?_none.mp h s hs (key_of_content hcontent)

theorem delivered_new_of_changed (hk : t.keys.Nodup) {old : Source τ} (h : t.find? name domain = some old)
    (hd : old.url ≠ d.url ∨ old.sdp ≠ d.sdp) : (t.delivered now name domain d).content ∉ t.contents := by
  intro hin
  obtain ⟨s, hs, hcontent⟩ := mem_contents.mp hin
  obtain ⟨hold, hkey⟩ := mem_of_find? h
  cases eq_of_key hk hold hs (hkey.trans (key_of_content hcontent).symm)
  simp only [content, delivered, Prod.mk.injEq] at hcontent
  rcases hd with hurl | hsdp
  · exact hurl hcontent.2.2.1
  · exact hsdp hcontent.2.2.2

theorem content_renewed (hk : t.keys.Nodup) {old : Source τ} (h : t.find? name domain = some old)
    (hd : ¬ (old.url ≠ d.url ∨ old.sdp ≠ d.sdp)) (hs : s ∈ t.entries) :
    (renewed now name domain d s).content = s.content := by
  by_cases hkey : s.key = (name, domain)
  · obtain ⟨hold, hkey'⟩ := mem_of_find? h
    cases eq_of_key hk hold hs (hkey'.trans hkey.symm)
    rw [renewed_same hkey]
    simp only [not_or, ne_eq, Classical.not_not] at hd
    simp [content, renew, hd]
  · rw [renewed_other hkey]

theorem contents_remove_some {old : Source τ} (h : t.find? name domain = some old) :
    (t.remove name domain).contents ≠ t.contents := by
  intro heq
  obtain ⟨hold, hkey⟩ := mem_of_find? h
  have hin : old.content ∈ t.contents := mem_contents.mpr ⟨old, hold, rfl⟩
  rw [← heq] at hin
  obtain ⟨s, hs, hcontent⟩ := mem_contents.mp hin
  exact (mem_remove.mp hs).2 ((key_of_content hcontent).trans hkey)

def Announces (t t' : Table τ) : Prop :=
  t'.contents ≠ t.contents ∧ t'.publications = t.publications + 1 ∨
    t'.contents = t.contents ∧ t'.publications = t.publications

def Fresh (t : Table τ) : Prop :=
  t.published = digest t.all

theorem fresh_empty : Fresh ({} : Table τ) :=
  (digest_sort []).symm

theorem fresh_publish (t : Table τ) : Fresh t.publish :=
  (digest_sort t.entries).symm

theorem map_content_renewed (hk : t.keys.Nodup) {old : Source τ} (h : t.find? name domain = some old)
    (hd : ¬ (old.url ≠ d.url ∨ old.sdp ≠ d.sdp)) :
    (t.entries.map (renewed now name domain d)).map content = t.entries.map content := by
  rw [List.map_map]
  exact List.map_congr_left fun s hs => content_renewed hk h hd hs

theorem contents_congr {t t' : Table τ} (h : t'.entries.map content = t.entries.map content) :
    t'.contents = t.contents := by
  ext q
  rw [mem_contents, mem_contents, ← List.mem_map, ← List.mem_map, h]

theorem fresh_congr {t t' : Table τ} (h : t'.entries.map content = t.entries.map content)
    (hp : t'.published = t.published) (hf : Fresh t) : Fresh t' := by
  rw [Fresh, hp, hf, all, digest_sort, all, digest_sort, digest_congr h]

theorem announces_deliver (hk : t.keys.Nodup) : Announces t (t.deliver now name domain d) := by
  cases h : t.find? name domain with
  | none => exact .inl ⟨contents_deliver_new hk (delivered_new_of_none h), by rw [deliver_none h]; rfl⟩
  | some old =>
    by_cases hd : old.url ≠ d.url ∨ old.sdp ≠ d.sdp
    · refine .inl ⟨contents_deliver_new hk (delivered_new_of_changed hk h hd), ?_⟩
      rw [deliver_some h, if_pos hd]
      rfl
    · rw [deliver_some h, if_neg hd]
      exact .inr ⟨contents_congr (map_content_renewed hk h hd), rfl⟩

theorem fresh_deliver (hk : t.keys.Nodup) (hf : Fresh t) : Fresh (t.deliver now name domain d) := by
  cases h : t.find? name domain with
  | none =>
    rw [deliver_none h]
    exact fresh_publish _
  | some old =>
    rw [deliver_some h]
    split
    · exact fresh_publish _
    · rename_i hd
      exact fresh_congr (map_content_renewed hk h hd) rfl hf

theorem announces_remove : Announces t (t.remove name domain) := by
  cases h : t.find? name domain with
  | none =>
    rw [remove_none h]
    exact .inr ⟨rfl, rfl⟩
  | some old =>
    refine .inl ⟨contents_remove_some h, ?_⟩
    rw [remove_some h]
    rfl

theorem fresh_remove (hf : Fresh t) : Fresh (t.remove name domain) := by
  cases h : t.find? name domain with
  | none => rwa [remove_none h]
  | some old =>
    rw [remove_some h]
    exact fresh_publish _

end Table

end StreamScout.Source
