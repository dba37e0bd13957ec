import StreamScout.Proofs.Source.Canonical

namespace StreamScout.Source

variable {τ : Type} {t : Table τ} {s : Source τ} {xs ys : List (Source τ)} {c : Call τ} {calls calls' : List (Call τ)}
  {input : List UInt8}

def lasting (s : Source τ) : String × String × String × String × Option String :=
  (s.name, s.domain, s.url, s.sdp, s.sessionName)

def Call.FromSdp : Call τ → Prop
  | .deliver _ _ _ d => ∃ url sdp, d = .ofSdp url sdp
  | .remove .. => True

def inputAfter (t : Table τ) (input : List UInt8) : List (Call τ) → List UInt8
  | [] => input
  | c :: calls =>
      let t' := c.perform t
      inputAfter t' (if t'.publications = t.publications then input else digestInput t'.entries) calls

def publishedInput (calls : List (Call τ)) : List UInt8 :=
  inputAfter ({} : Table τ) (digestInput ([] : List (Source τ))) calls

theorem nodup_perform (hk : t.keys.Nodup) (c : Call τ) : (c.perform t).keys.Nodup := by
  cases c with
  | deliver now name domain d => exact Table.nodup_deliver hk
  | remove name domain => exact Table.nodup_remove hk

theorem digestInput_perform (hk : t.keys.Nodup) (h : (c.perform t).publications = t.publications) :
    digestInput (c.perform t).entries = digestInput t.entries := by
  rcases announces_perform hk c with ⟨-, hmore⟩ | ⟨hsame, -⟩
  · omega
  · exact (digestInput_eq_iff_of_nodup (nodup_perform hk c) hk).mpr (contents_eq_iff.mp hsame)

theorem inputAfter_eq (hk : t.keys.Nodup) (h : input = digestInput t.entries) :
    inputAfter t input calls = digestInput (calls.foldl Call.perform t).entries := by
  induction calls generalizing t input with
  | nil => exact h
  | cons c calls ih =>
    rw [inputAfter, List.foldl_cons]
    refine ih (nodup_perform hk c) ?_
    -- a call that publishes nothing leaves the contents, and so the bytes a digest would be taken of
    split
    next hquiet => rw [h, digestInput_perform hk hquiet]
    next => rfl

theorem publishedInput_eq (calls : List (Call τ)) : publishedInput calls = digestInput (Table.after calls).entries :=
  inputAfter_eq List.nodup_nil rfl

theorem published_eq (calls : List (Call τ)) : (Table.after calls).published = Sha256.hex (publishedInput calls) := by
  have hfresh : (Table.after calls).published = digest (Table.after calls).all := (held_after calls).fresh
  rw [hfresh, publishedInput_eq, Table.all, digest_sort, digest]

def ofContent (content : String × String × String × String) : String × String × String × String × Option String :=
  let (name, domain, url, sdp) := content
  (name, domain, url, sdp, (Rtsp.Description.ofSdp url sdp).sessionName)

theorem lasting_eq (hc : ∀ c ∈ calls, c.FromSdp) (hs : s ∈ (Table.after calls).all) :
    s.lasting = ofContent s.content := by
  obtain ⟨hlast, -⟩ := ((held_after calls).entries s).mp (Table.mem_all.mp hs)
  obtain ⟨url, sdp, hd⟩ := hc _ (lastCall?_mem hlast).1
  obtain ⟨rfl, rfl, hname⟩ := Rtsp.Description.mk.inj hd
  simp only [lasting, ofContent, content, hname, Rtsp.Description.ofSdp]

theorem map_lasting_eq (hc : ∀ c ∈ calls, c.FromSdp) :
    (Table.after calls).all.map lasting = ((Table.after calls).all.map content).map ofContent := by
  rw [List.map_map]
  exact List.map_congr_left fun s hs => lasting_eq hc hs

theorem content_of_lasting (h : xs.map lasting = ys.map lasting) : xs.map content = ys.map content := by
  have hcontent (zs : List (Source τ)) :
      zs.map content = (zs.map lasting).map fun q => (q.1, q.2.1, q.2.2.1, q.2.2.2.1) := by
    rw [List.map_map]
    rfl
  rw [hcontent, hcontent, h]

/-- Two moments of one run are two histories of which one continues the other; the law holds of any two. -/
theorem digest_tells_changes (hc : ∀ c ∈ calls, c.FromSdp) (hc' : ∀ c ∈ calls', c.FromSdp) :
    (Table.after calls).published = Sha256.hex (publishedInput calls) ∧
    (publishedInput calls = publishedInput calls' ↔
      (Table.after calls).all.map lasting = (Table.after calls').all.map lasting) ∧
    ((Table.after calls).all.map lasting = (Table.after calls').all.map lasting →
      (Table.after calls).published = (Table.after calls').published) := by
  have hsame : publishedInput calls = publishedInput calls' ↔
      (Table.after calls).all.map lasting = (Table.after calls').all.map lasting := by
    rw [publishedInput_eq, publishedInput_eq, digestInput_eq_iff]
    constructor
    · intro h
      rw [map_lasting_eq hc, map_lasting_eq hc', Table.all, Table.all, h]
    · exact content_of_lasting
  refine ⟨published_eq calls, hsame, fun h => ?_⟩
  rw [published_eq, published_eq, hsame.mpr h]

theorem all_of_entries (h : t.entries = [s]) : t.all = [s] := by
  rw [Table.all, h, sort, List.mergeSort_singleton]

def studioOne : Rtsp.Description :=
  .ofSdp "rtsp://10.0.0.5:8554/by-name/studio" "v=0\r\ns=Studio One\r\n"

def studioTwo : Rtsp.Description :=
  .ofSdp "rtsp://10.0.0.5:8554/by-name/studio" "v=0\r\ns=Studio Two\r\n"

def deliveredOnce : List (Call Nat) :=
  [.deliver 1 "studio" "local" studioOne]

def deliveredAgain : List (Call Nat) :=
  deliveredOnce ++ [.deliver 5 "attic" "local" studioTwo, .deliver 7 "studio" "local" studioOne,
    .remove "attic" "local"]

def deliveredRenamed : List (Call Nat) :=
  deliveredOnce ++ [.deliver 5 "studio" "local" studioTwo]

theorem digest_tells_changes_studio :
    ((∀ c ∈ deliveredOnce, c.FromSdp) ∧ (∀ c ∈ deliveredAgain, c.FromSdp) ∧ ∀ c ∈ deliveredRenamed, c.FromSdp) ∧
      (Table.after deliveredOnce).all ≠ (Table.after deliveredAgain).all ∧
      publishedInput deliveredOnce = publishedInput deliveredAgain ∧
      publishedInput deliveredOnce ≠ publishedInput deliveredRenamed := by
  have honce : ∀ c ∈ deliveredOnce, c.FromSdp := by
    simp only [deliveredOnce, List.forall_mem_cons]
    exact ⟨⟨_, _, rfl⟩, nofun⟩
  have hagain : ∀ c ∈ deliveredAgain, c.FromSdp := by
    simp only [deliveredAgain, List.forall_mem_append, List.forall_mem_cons]
    exact ⟨honce, ⟨_, _, rfl⟩, ⟨_, _, rfl⟩, trivial, nofun⟩
  have hrenamed : ∀ c ∈ deliveredRenamed, c.FromSdp := by
    simp only [deliveredRenamed, List.forall_mem_append, List.forall_mem_cons]
    exact ⟨honce, ⟨_, _, rfl⟩, nofun⟩
  have hfirst := all_of_entries (t := Table.after deliveredOnce) rfl
  have hsecond := all_of_entries (t := Table.after deliveredAgain) rfl
  have hthird := all_of_entries (t := Table.after deliveredRenamed) rfl
  refine ⟨⟨honce, hagain, hrenamed⟩, ?_, (digest_tells_changes honce hagain).2.1.mpr ?_,
    fun h => absurd ((digest_tells_changes honce hrenamed).2.1.mp h) ?_⟩
  · rw [hfirst, hsecond]
    decide
  · rw [hfirst, hsecond]
    rfl
  · rw [hfirst, hthird]
    decide

end StreamScout.Source
