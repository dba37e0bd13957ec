import StreamScout.Effect
import StreamScout.Source.Digest

namespace StreamScout.Source

structure Table (τ : Type) where
  entries : List (Source τ) := []
  published : String := digest ([] : List (Source τ))
  /-- How many digests have been published, the one of the empty table included. -/
  publications : Nat := 1
  deriving DecidableEq, Repr

namespace Table

variable {τ : Type}

def find? (name domain : String) (t : Table τ) : Option (Source τ) :=
  t.entries.find? fun s => s.name == name && s.domain == domain

def all (t : Table τ) : List (Source τ) :=
  sort t.entries

def get? (name : String) (t : Table τ) : Option (Source τ) :=
  t.all.find? (·.name == name)

def publish (t : Table τ) : Table τ :=
  { t with published := digest t.entries, publications := t.publications + 1 }

def renew (now : τ) (d : Rtsp.Description) (s : Source τ) : Source τ :=
  { s with url := d.url, sdp := d.sdp, sessionName := d.sessionName, lastSeen := now }

def deliver (now : τ) (name domain : String) (d : Rtsp.Description) (t : Table τ) : Table τ :=
  match t.find? name domain with
  | some old =>
      let t' :=
        { t with
          entries := t.entries.map fun s =>
            if s.name == name && s.domain == domain then renew now d s else s }
      if old.url ≠ d.url ∨ old.sdp ≠ d.sdp then t'.publish else t'
  | none =>
      publish { t with entries := t.entries ++ [⟨name, domain, d.url, d.sdp, d.sessionName, now, now⟩] }

def remove (name domain : String) (t : Table τ) : Table τ :=
  match t.find? name domain with
  | some _ => publish { t with entries := t.entries.filter fun s => !(s.name == name && s.domain == domain) }
  | none => t

def apply (now : τ) (t : Table τ) : Effect → Table τ
  | .added name domain d => t.deliver now name domain d
  | .removed name domain => t.remove name domain
  | _ => t

end Table

end StreamScout.Source
