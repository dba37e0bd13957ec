namespace StreamScout

abbrev Keyed (α : Type) := List (String × α)

namespace Keyed

variable {α : Type}

def get? (key : String) : Keyed α → Option α
  | [] => none
  | (k, v) :: rest => if k = key then some v else get? key rest

def put (key : String) (value : α) : Keyed α → Keyed α
  | [] => [(key, value)]
  | (k, v) :: rest => if k = key then (k, value) :: rest else (k, v) :: put key value rest

def drop (key : String) (m : Keyed α) : Keyed α :=
  m.filter fun e => e.1 != key

end Keyed

end StreamScout
