/-! Names in use, in rising order. Naming again replaces what a name stood for. -/
namespace LogThrottle

structure Names (α : Type) where
  entries : List (String × α) := []

namespace Names
variable {α : Type}

instance : Inhabited (Names α) := ⟨{}⟩

def find? (n : Names α) (name : String) : Option α :=
  (n.entries.find? (·.1 = name)).map Prod.snd

private def place (name : String) (a : α) : List (String × α) → List (String × α)
  | [] => [(name, a)]
  | e :: es =>
    if name < e.1 then (name, a) :: e :: es
    else if name = e.1 then (name, a) :: es
    else e :: place name a es

def put (n : Names α) (name : String) (a : α) : Names α := ⟨place name a n.entries⟩

def erase (n : Names α) (name : String) : Names α := ⟨n.entries.filter (·.1 ≠ name)⟩

end Names
end LogThrottle
