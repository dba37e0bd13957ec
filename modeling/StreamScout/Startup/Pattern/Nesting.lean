namespace StreamScout.Startup.Pattern

def deepest : Nat := 250

def nesting : List Nat → Nat
  | [] => 0
  | [n] => n
  | ns => ns.foldl max 0 + 1

end StreamScout.Startup.Pattern
