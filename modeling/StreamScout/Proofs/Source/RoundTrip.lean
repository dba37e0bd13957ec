import StreamScout.Proofs.Sequence
import StreamScout.Proofs.Source.Reader
import StreamScout.Proofs.Time.Reading

namespace StreamScout.RemoteSource

open StreamScout.Json
open StreamScout.Time (Timestamp)

variable {d d' : Draft} {f : Field} {fields : List Field} {key : String} {cs rest text : List Char} {s : RemoteSource}

theorem timeValue_regular {t : Timestamp} (h : timeValue cs = .ok (t, rest)) : t.regular = true := by
  obtain ⟨⟨text, rest'⟩, -, h⟩ := exists_of_bind h
  dsimp only at h
  split at h
  next t' hread =>
    cases h
    exact Time.regular_ofChars hread
  next => cases h

structure Draft.WellTimed (d : Draft) : Prop where
  first : ∀ t ∈ d.firstSeen, t.regular = true
  last : ∀ t ∈ d.lastSeen, t.regular = true

theorem Draft.wellTimed_empty : Draft.WellTimed {} :=
  ⟨nofun, nofun⟩

theorem Draft.read_wellTimed (hd : d.WellTimed) (h : d.read f cs = .ok (d', rest)) : d'.WellTimed := by
  cases f with
  | name | domain | url | sdp | sessionName =>
    obtain ⟨⟨v, r⟩, -, heq⟩ := exists_of_map h
    cases heq
    exact ⟨hd.first, hd.last⟩
  | firstSeen =>
    obtain ⟨⟨t, r⟩, htime, heq⟩ := exists_of_map h
    cases heq
    exact ⟨fun t' ht' => Option.some.inj ht' ▸ timeValue_regular htime, hd.last⟩
  | lastSeen =>
    obtain ⟨⟨t, r⟩, htime, heq⟩ := exists_of_map h
    cases heq
    exact ⟨hd.first, fun t' ht' => Option.some.inj ht' ▸ timeValue_regular htime⟩

theorem member_wellTimed (hd : d.WellTimed) (h : member key d cs = .ok (d', rest)) : d'.WellTimed := by
  unfold member at h
  split at h
  next f hf =>
    split at h
    next => cases h
    next =>
      obtain ⟨cs', -, hread⟩ := exists_of_bind h
      exact Draft.read_wellTimed hd hread
  next =>
    obtain ⟨cs', -, h⟩ := exists_of_bind h
    obtain ⟨rest', -, h⟩ := exists_of_bind h
    cases h
    exact hd

theorem members_wellTimed {turns : Nat} {first : Bool} (hd : d.WellTimed)
    (h : members turns first d cs = .ok (d', rest)) : d'.WellTimed := by
  induction turns generalizing first d cs with
  | zero => cases h
  | succ turns ih =>
    rw [members] at h
    split at h
    next => cases h
    next =>
      cases h
      exact hd
    next =>
      split at h
      next => cases h
      next d₁ rest₁ hmember => exact ih (member_wellTimed hd hmember) h

theorem elements_wellTimed {count : Nat} (hd : d.WellTimed)
    (h : elements fields count d cs = .ok (d', rest)) : d'.WellTimed := by
  induction fields generalizing count d cs with
  | nil =>
    cases h
    exact hd
  | cons f fields ih =>
    rw [elements] at h
    split at h
    next => cases h
    next => cases h
    next =>
      split at h
      next => cases h
      next d₁ rest₁ hread => exact ih (Draft.read_wellTimed hd hread) h

theorem Draft.required_some {α : Type} {v : Option α} {a : α} (h : Draft.required f v = .ok a) : v = some a := by
  cases v with
  | none => cases h
  | some a' => exact congrArg some (Except.ok.inj h)

theorem Draft.complete_timed (hd : d.WellTimed) (h : d.complete = .ok s) : Timed s := by
  obtain ⟨name, -, h⟩ := exists_of_bind h
  obtain ⟨domain, -, h⟩ := exists_of_bind h
  obtain ⟨url, -, h⟩ := exists_of_bind h
  obtain ⟨sdp, -, h⟩ := exists_of_bind h
  obtain ⟨firstSeen, hfirst, h⟩ := exists_of_bind h
  obtain ⟨lastSeen, hlast, h⟩ := exists_of_bind h
  cases h
  exact ⟨hd.first firstSeen (Draft.required_some hfirst), hd.last lastSeen (Draft.required_some hlast)⟩

theorem value_timed (h : value cs = .ok (s, rest)) : Timed s := by
  unfold value at h
  split at h
  next => cases h
  next =>
    obtain ⟨⟨d, rest'⟩, hmembers, h⟩ := exists_of_bind h
    obtain ⟨s', hcomplete, h⟩ := exists_of_bind h
    cases h
    exact Draft.complete_timed (members_wellTimed Draft.wellTimed_empty hmembers) hcomplete
  next =>
    obtain ⟨⟨d, rest'⟩, helements, h⟩ := exists_of_bind h
    obtain ⟨s', hcomplete, h⟩ := exists_of_bind h
    obtain ⟨rest'', -, h⟩ := exists_of_bind h
    cases h
    exact Draft.complete_timed (elements_wellTimed Draft.wellTimed_empty helements) hcomplete
  next => cases h

theorem timed_ofJson (h : ofJson text = .ok s) : Timed s := by
  obtain ⟨⟨s', rest⟩, hvalue, h⟩ := exists_of_bind h
  obtain ⟨u, -, h⟩ := exists_of_bind h
  cases h
  exact value_timed hvalue

def Representable (s : RemoteSource) : Prop :=
  s.firstSeen.valid = true ∧ s.lastSeen.valid = true

def retold (s : RemoteSource) : RemoteSource :=
  { s with firstSeen := s.firstSeen.told, lastSeen := s.lastSeen.told }

theorem timed_retold (h : Representable s) : Timed (retold s) :=
  ⟨Time.told_regular h.1, Time.told_regular h.2⟩

theorem toJson_retold (h : Representable s) : toJson (retold s) = toJson s := by
  simp only [toJson, Source.json, retold, Timestamp.text, Time.toChars_told h.1, Time.toChars_told h.2]

theorem source_json_round_trip :
    (∀ s : RemoteSource, ofJson (toJson s) = .ok s ↔ Timed s) ∧
    (∀ s : RemoteSource, Representable s → ofJson (toJson s) = .ok (retold s) ∧ toJson (retold s) = toJson s) ∧
    ∀ text s, ofJson text = .ok s →
      ofJson (toJson s) = .ok s ∧ ∀ s', ofJson (toJson s) = .ok s' → toJson s' = toJson s := by
  refine ⟨fun s => ⟨timed_ofJson, ofJson_toJson⟩, ?_, ?_⟩
  · intro s h
    have hread := ofJson_toJson (timed_retold h)
    rw [toJson_retold h] at hread
    exact ⟨hread, toJson_retold h⟩
  · intro text s h
    have hagain := ofJson_toJson (timed_ofJson h)
    refine ⟨hagain, ?_⟩
    intro s' hs'
    cases hs'.symm.trans hagain
    rfl

theorem source_json_round_trip_spellings :
    let text := "\x7b \"last_seen\": \"-0001-12-31 23:59:60.5 z\", \"extra\": [1, \x7b\x7d],".toList ++
      "\"name\": \"\\u00e9\\ud83d\\ude00\", \"first_seen\": \"2024-1-2t3:4:5.1234567891+0530\",".toList ++
      "\"domain\": \"local\", \"url\": \"\\/\", \"sdp\": \"v=0\\r\\n\"\x7d".toList
    let s : RemoteSource := ⟨"é😀", "local", "/", "v=0\r\n", none, ⟨⟨2024, 1, 1⟩, 77645, 123456789⟩,
      ⟨⟨-1, 12, 31⟩, 86399, 1500000000⟩⟩
    let utmost : RemoteSource := ⟨"", "\x00", "\"", "\\", some "", ⟨⟨-262143, 1, 1⟩, 0, 0⟩,
      ⟨⟨262142, 12, 31⟩, 86399, 1999999999⟩⟩
    let inside : RemoteSource := { utmost with lastSeen := ⟨⟨2024, 1, 2⟩, 30, 1500000000⟩ }
    (ofJson text = .ok s ∧ ofJson (toJson s) = .ok s ∧ ∀ s', ofJson (toJson s) = .ok s' → toJson s' = toJson s) ∧
      ofJson (toJson utmost) = .ok utmost ∧
      ofJson (toJson inside) = .ok { inside with lastSeen := ⟨⟨2024, 1, 2⟩, 31, 500000000⟩ } := by
  intro text s utmost inside
  have htext : ofJson text = .ok s := by decide +kernel
  have htimed : Timed utmost := ⟨by decide +kernel, by decide +kernel⟩
  have hinside : Representable inside := ⟨by decide +kernel, by decide +kernel⟩
  have hlost : retold inside = { inside with lastSeen := ⟨⟨2024, 1, 2⟩, 31, 500000000⟩ } := by decide +kernel
  refine ⟨⟨htext, source_json_round_trip.2.2 text s htext⟩, (source_json_round_trip.1 utmost).mpr htimed, ?_⟩
  rw [← hlost]
  exact (source_json_round_trip.2.1 inside hinside).1

theorem leap_second_lost :
    let s : RemoteSource := ⟨"studio", "local", "rtsp://10.0.0.5:8554/by-name/studio", "v=0\r\n", none,
      ⟨⟨2024, 1, 2⟩, 30, 1500000000⟩, ⟨⟨2024, 1, 2⟩, 60, 0⟩⟩
    Representable s ∧ ofJson (toJson s) = .ok { s with firstSeen := ⟨⟨2024, 1, 2⟩, 31, 500000000⟩ } ∧
      ofJson (toJson s) ≠ .ok s := by
  refine ⟨⟨by decide +kernel, by decide +kernel⟩, by decide +kernel, by decide +kernel⟩

end StreamScout.RemoteSource
