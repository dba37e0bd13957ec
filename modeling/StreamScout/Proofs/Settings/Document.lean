import StreamScout.Proofs.Settings.Recognised

namespace StreamScout.Settings

open StreamScout.Toml (Item Entries Kind NeatEntries neat_table_iff)

variable {es inner : Entries} {i v : Item} {kind : Kind} {name key : String} {document : List Char}
  {d d' : Draft} {s : Settings}

section Documents

def sections : Section Draft where
  expected := "struct Config"
  keys := sectionNames
  set := readSection

theorem readSections_eq (es : Entries) (d : Draft) : readSections es d = sections.ofEntries es d := by
  induction es generalizing d with
  | nil => rfl
  | cons e es ih =>
    obtain ⟨name, i⟩ := e
    by_cases hname : name ∈ sectionNames
    · have hknown : sections.keys.contains name = true := List.contains_iff_mem.mpr hname
      have hset : sections.set name i d = readSection name i d := rfl
      rw [readSections, Section.ofEntries, if_pos hknown, hset]
      cases readSection name i d with
      | error e => rfl
      | ok d' => exact ih d'
    · have hskip : readSection name i d = .ok d := by
        simp only [sectionNames, List.mem_cons, List.not_mem_nil, or_false, not_or] at hname
        obtain ⟨hbrowser, hprobe, hmaintenance, hapi⟩ := hname
        rw [readSection, if_neg hbrowser, if_neg hprobe, if_neg hmaintenance, if_neg hapi]
      rw [Section.ofEntries_unknown i hname, readSections, hskip]
      exact ih d

def Browser.told (f : String → Option Item) : Browser where
  interface := textOr (f "interface") ""
  serviceType := textOr (f "service_type") defaultServiceType

theorem readBrowser_table {b : Browser} : readBrowser (.table kind inner) = .ok b ↔
    ∃ d, browserSection.ofEntries inner {} = .ok d ∧ d.interface = some b.interface ∧
      d.serviceType.getD defaultServiceType = b.serviceType := by
  have hread : browserSection.read (.table kind inner) {} = browserSection.ofEntries inner {} := rfl
  rw [readBrowser, hread]
  cases browserSection.ofEntries inner {} with
  | error e => simp
  | ok d =>
    obtain ⟨interface, serviceType⟩ := d
    obtain ⟨n', t⟩ := b
    cases interface with
    | none => simp
    | some n =>
      simp only [Except.ok.injEq, Browser.mk.injEq]
      constructor
      · rintro ⟨rfl, rfl⟩
        exact ⟨_, rfl, rfl, rfl⟩
      · rintro ⟨d, rfl, hinterface, htype⟩
        cases hinterface
        exact ⟨rfl, htype⟩

theorem exists_readBrowser (distinct : Keyed.Distinct inner) : (∃ b, readBrowser (.table kind inner) = .ok b) ↔
    Typed "browser" inner ∧ ∃ s, Keyed.get? "interface" inner = some (.string s) := by
  rw [← browser_follows.exists_ofEntries distinct {}]
  constructor
  · rintro ⟨b, hb⟩
    obtain ⟨d, hd, hinterface, -⟩ := readBrowser_table.mp hb
    refine ⟨⟨d, hd⟩, b.interface, ?_⟩
    rw [browser_follows.eq_told distinct hd, BrowserDraft.told, Option.or_none] at hinterface
    exact textIn_eq_some.mp hinterface
  · rintro ⟨⟨d, hd⟩, s, hs⟩
    have hinterface : d.interface = some s := by
      rw [browser_follows.eq_told distinct hd, BrowserDraft.told, hs]
      rfl
    exact ⟨⟨s, _⟩, readBrowser_table.mpr ⟨d, hd, hinterface, rfl⟩⟩

theorem readBrowser_told {b : Browser} (distinct : Keyed.Distinct inner)
    (h : readBrowser (.table kind inner) = .ok b) : b = Browser.told (Keyed.get? · inner) := by
  obtain ⟨d, hd, hinterface, htype⟩ := readBrowser_table.mp h
  obtain ⟨n, t⟩ := b
  rw [browser_follows.eq_told distinct hd] at hinterface htype
  simp only [BrowserDraft.told, Option.or_none] at hinterface htype
  rw [Browser.told, textOr, textOr, hinterface, htype, Option.getD_some]

def Readable (name : String) (i : Item) : Prop :=
  ∀ inner, entries? i = some inner →
    Typed name inner ∧ (name = "browser" → ∃ s, Keyed.get? "interface" inner = some (.string s))

theorem exists_readSection (hname : name ∈ sectionNames) (distinct : Keyed.Distinct inner) (d : Draft) :
    (∃ d', readSection name (.table kind inner) d = .ok d') ↔ Readable name (.table kind inner) := by
  have hreadable : Readable name (.table kind inner) ↔
      Typed name inner ∧ (name = "browser" → ∃ s, Keyed.get? "interface" inner = some (.string s)) := by
    simp [Readable, entries?]
  rw [hreadable]
  simp only [sectionNames, List.mem_cons, List.not_mem_nil, or_false] at hname
  rcases hname with rfl | rfl | rfl | rfl
  · have hread := @exists_readBrowser inner kind distinct
    simpa [readSection, exists_map_iff] using hread
  · have hread := probing_follows.exists_ofEntries distinct {}
    simpa [readSection, exists_map_iff, Section.read] using hread
  · have hread := maintenance_follows.exists_ofEntries distinct {}
    simpa [readSection, exists_map_iff, Section.read] using hread
  · have hread := serving_follows.exists_ofEntries distinct {}
    simpa [readSection, exists_map_iff, Section.read] using hread

def Probing.told (f : String → Option Item) : Probing :=
  (ProbingDraft.told f {}).over default

def Maintenance.told (f : String → Option Item) : Maintenance :=
  (MaintenanceDraft.told f {}).over default

def Serving.told (f : String → Option Item) : Serving :=
  (ServingDraft.told f {}).over default

def Draft.told (f : String → Option Item) (d : Draft) : Draft where
  browser := if (f "browser").isSome then some (Browser.told (inside (f "browser"))) else d.browser
  probing := if (f "probe").isSome then some (Probing.told (inside (f "probe"))) else d.probing
  maintenance := if (f "maintenance").isSome then some (Maintenance.told (inside (f "maintenance"))) else d.maintenance
  serving := if (f "api").isSome then some (Serving.told (inside (f "api"))) else d.serving

theorem readSection_told (hname : name ∈ sectionNames) (distinct : Keyed.Distinct inner)
    (h : readSection name (.table kind inner) d = .ok d') {f g : String → Option Item} (hf : f name = none)
    (hg : ∀ key, g key = if key = name then some (.table kind inner) else f key) : Draft.told f d' = Draft.told g d := by
  simp only [sectionNames, List.mem_cons, List.not_mem_nil, or_false] at hname
  rcases hname with rfl | rfl | rfl | rfl
  · obtain ⟨b, hb, rfl⟩ := exists_of_map h
    rw [readBrowser_told distinct hb]
    simp only [Draft.told, hf, Option.isSome_none, Bool.false_eq_true, ↓reduceIte, hg, Option.isSome_some,
      String.reduceEq, Draft.mk.injEq, Option.some.injEq, and_self, and_true]
    rfl
  · obtain ⟨p, hp, rfl⟩ := exists_of_map h
    rw [probing_follows.eq_told distinct hp, ProbingDraft.fill_eq_over]
    simp only [Draft.told, hf, hg, String.reduceEq, ↓reduceIte, Draft.mk.injEq, and_self, and_true, true_and]
    rfl
  · obtain ⟨m, hm, rfl⟩ := exists_of_map h
    rw [maintenance_follows.eq_told distinct hm, MaintenanceDraft.fill_eq_over]
    simp only [Draft.told, hf, hg, String.reduceEq, ↓reduceIte, Draft.mk.injEq, and_true, true_and]
    rfl
  · obtain ⟨a, ha, rfl⟩ := exists_of_map h
    rw [serving_follows.eq_told distinct ha, ServingDraft.fill_eq_over]
    simp only [Draft.told, hf, hg, String.reduceEq, ↓reduceIte, Draft.mk.injEq, true_and]
    rfl

theorem Tables.distinct (tables : Tables es) (neat : NeatEntries es) (hname : name ∈ sectionNames) (h : (name, i) ∈ es) :
    ∃ kind inner, i = .table kind inner ∧ Keyed.Distinct inner := by
  obtain ⟨kind, inner, rfl⟩ := tables name i h hname
  exact ⟨kind, inner, rfl, (neat_table_iff.mp (neat.inner _ h)).distinct⟩

theorem exists_readSections (neat : NeatEntries es) (tables : Tables es) (d : Draft) :
    (∃ d', readSections es d = .ok d') ↔ ∀ name ∈ sectionNames, ∀ i, (name, i) ∈ es → Readable name i := by
  rw [readSections_eq]
  refine Section.exists_ofEntries_iff fun name hname i hi d => ?_
  obtain ⟨kind, inner, rfl, distinct⟩ := tables.distinct neat hname hi
  exact exists_readSection hname distinct d

theorem readSections_told (neat : NeatEntries es) (tables : Tables es) (h : readSections es d = .ok d') :
    d' = Draft.told (Keyed.get? · es) d := by
  rw [readSections_eq] at h
  refine Section.ofEntries_told (s := sections) (fun d => rfl) ?_ ?_ neat.distinct h
  · intro f g d hfg
    simp only [Draft.told, hfg "browser" (by decide), hfg "probe" (by decide), hfg "maintenance" (by decide),
      hfg "api" (by decide)]
  · intro name hname i hi d d' hread f g hf hg
    obtain ⟨kind, inner, rfl, distinct⟩ := tables.distinct neat hname hi
    exact readSection_told hname distinct hread hf hg

end Documents

section Values

theorem value?_eq_some_iff : value? name key es = some v ↔
    ∃ kind inner, Keyed.get? name es = some (.table kind inner) ∧ Keyed.get? key inner = some v := by
  rw [value?, inside]
  cases Keyed.get? name es with
  | none => simp
  | some i => cases i <;> simp [entries?]

theorem mem_sectionNames {w : Wanted} (h : (name, key, w) ∈ recognised) : name ∈ sectionNames := by
  have hall : ∀ e ∈ recognised, e.1 ∈ sectionNames := by decide
  exact hall _ h

theorem ofEntries_eq_ok : ofEntries es = .ok s ↔
    ∃ d, readSections es {} = .ok d ∧ d.browser = some s.browser ∧ d.probing.getD default = s.probing ∧
      d.maintenance.getD default = s.maintenance ∧ d.serving.getD default = s.serving := by
  rw [ofEntries]
  cases readSections es {} with
  | error e => simp
  | ok d =>
    obtain ⟨b, p, m, a⟩ := s
    simp only [Except.ok.injEq, exists_eq_left']
    cases d.browser <;> simp

theorem told_eq : told es =
    ⟨Browser.told (inside (Keyed.get? "browser" es)), Probing.told (inside (Keyed.get? "probe" es)),
      Maintenance.told (inside (Keyed.get? "maintenance" es)), Serving.told (inside (Keyed.get? "api" es))⟩ := by
  simp only [Probing.told, Maintenance.told, Serving.told, ProbingDraft.told, MaintenanceDraft.told, ServingDraft.told,
    Option.or_none]
  rfl

theorem ofEntries_told (neat : NeatEntries es) (tables : Tables es) (h : ofEntries es = .ok s) : s = told es := by
  obtain ⟨d, hd, hbrowser, hprobing, hmaintenance, hserving⟩ := ofEntries_eq_ok.mp h
  obtain ⟨b, p, m, a⟩ := s
  rw [readSections_told neat tables hd, Draft.told] at hbrowser hprobing hmaintenance hserving
  have hb : b = Browser.told (inside (Keyed.get? "browser" es)) := by
    simp only at hbrowser
    split at hbrowser
    next =>
      cases hbrowser
      rfl
    next => cases hbrowser
  have hp : p = Probing.told (inside (Keyed.get? "probe" es)) := hprobing.symm.trans (getD_inside rfl _)
  have hm : m = Maintenance.told (inside (Keyed.get? "maintenance" es)) := hmaintenance.symm.trans (getD_inside rfl _)
  have ha : a = Serving.told (inside (Keyed.get? "api" es)) := hserving.symm.trans (getD_inside rfl _)
  rw [hb, hp, hm, ha, told_eq]

theorem exists_ofEntries (neat : NeatEntries es) (tables : Tables es) : (∃ s, ofEntries es = .ok s) ↔
    (∃ n, value? "browser" "interface" es = some (.string n)) ∧ Admitted es := by
  constructor
  · rintro ⟨s, hs⟩
    obtain ⟨d, hd, hbrowser, -⟩ := ofEntries_eq_ok.mp hs
    have hreadable := (exists_readSections neat tables {}).mp ⟨d, hd⟩
    constructor
    · rw [readSections_told neat tables hd, Draft.told] at hbrowser
      cases hget : Keyed.get? "browser" es with
      | none => simp [hget] at hbrowser
      | some i =>
        have hi := Keyed.mem_of_get? hget
        obtain ⟨kind, inner, rfl⟩ := tables _ _ hi (by decide)
        obtain ⟨n, hn⟩ := (hreadable _ (by decide) _ hi inner rfl).2 rfl
        exact ⟨n, value?_eq_some_iff.mpr ⟨kind, inner, hget, hn⟩⟩
    · intro name key w hw v hv
      obtain ⟨kind, inner, hget, hkey⟩ := value?_eq_some_iff.mp hv
      exact (hreadable _ (mem_sectionNames hw) _ (Keyed.mem_of_get? hget) inner rfl).1 key w hw v hkey
  · rintro ⟨⟨n, hn⟩, hadmitted⟩
    have hreadable : ∀ name ∈ sectionNames, ∀ i, (name, i) ∈ es → Readable name i := by
      intro name hname i hi inner hinner
      obtain ⟨kind, inner', rfl⟩ := tables _ _ hi hname
      cases hinner
      have hget := (Keyed.get?_eq_some_iff neat.distinct).mpr hi
      refine ⟨fun key w hw v hv => hadmitted name key w hw v (value?_eq_some_iff.mpr ⟨kind, inner, hget, hv⟩), ?_⟩
      rintro rfl
      obtain ⟨kind', inner', hget', hkey⟩ := value?_eq_some_iff.mp hn
      rw [hget] at hget'
      cases hget'
      exact ⟨n, hkey⟩
    obtain ⟨d, hd⟩ := (exists_readSections neat tables {}).mpr hreadable
    obtain ⟨kind, inner, hget, -⟩ := value?_eq_some_iff.mp hn
    have hbrowser : d.browser = some (Browser.told (inside (Keyed.get? "browser" es))) := by
      rw [readSections_told neat tables hd, Draft.told]
      simp [hget]
    exact ⟨⟨_, _, _, _⟩, ofEntries_eq_ok.mpr ⟨d, hd, hbrowser, rfl, rfl, rfl⟩⟩

theorem parse_eq_ok (tree : Toml.parse document = some es) :
    parse document = .ok s ↔ ofEntries es = .ok s ∧ s.browser.interface ≠ "" := by
  simp only [parse, tree]
  cases ofEntries es with
  | error m => simp
  | ok s' =>
    simp only [Except.ok.injEq, String.isEmpty_iff]
    by_cases hempty : s'.browser.interface = ""
    · rw [if_pos hempty]
      simp only [reduceCtorEq, false_iff, not_and, not_not]
      rintro rfl
      exact hempty
    · rw [if_neg hempty]
      simp only [Except.ok.injEq]
      constructor
      · rintro rfl
        exact ⟨rfl, hempty⟩
      · exact And.left

theorem exists_parse (tree : Toml.parse document = some es) (tables : Tables es) :
    (∃ s, parse document = .ok s) ↔ WellTyped es := by
  have neat := Toml.parse_neat tree
  have hinterface {s : Settings} (hs : ofEntries es = .ok s) {n : String}
      (hn : value? "browser" "interface" es = some (.string n)) : s.browser.interface = n := by
    rw [ofEntries_told neat tables hs]
    simp only [told, hn]
    rfl
  constructor
  · rintro ⟨s, hs⟩
    obtain ⟨hes, hne⟩ := (parse_eq_ok tree).mp hs
    obtain ⟨⟨n, hn⟩, types⟩ := (exists_ofEntries neat tables).mp ⟨s, hes⟩
    rw [hinterface hes hn] at hne
    exact ⟨⟨n, hn, hne⟩, types⟩
  · rintro ⟨⟨n, hn, hne⟩, types⟩
    obtain ⟨s, hs⟩ := (exists_ofEntries neat tables).mpr ⟨⟨n, hn⟩, types⟩
    refine ⟨s, (parse_eq_ok tree).mpr ⟨hs, ?_⟩⟩
    rwa [hinterface hs hn]

theorem parse_told (tree : Toml.parse document = some es) (tables : Tables es) (h : parse document = .ok s) :
    s = told es :=
  ofEntries_told (Toml.parse_neat tree) tables ((parse_eq_ok tree).mp h).1

end Values

end StreamScout.Settings
