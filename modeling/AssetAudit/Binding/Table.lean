namespace AssetAudit

/-! Names of constants with the texts they were seen to hold.  A table keeps the names, and the
values of each name, in the order in which they first appeared. -/

/-- A name and the values that it was seen to hold. -/
structure Binding where
  identifier : String
  values : List String
deriving DecidableEq

/-- Adds a value behind the others unless it is there. -/
def addValue (values : List String) (value : String) : List String :=
  if value ∈ values then values else values ++ [value]

def addValues (old new : List String) : List String := new.foldl addValue old

structure BindingTable where
  entries : List Binding
deriving DecidableEq

namespace BindingTable

def empty : BindingTable := ⟨[]⟩

def size (table : BindingTable) : Nat := table.entries.length

def contains (table : BindingTable) (identifier : String) : Bool :=
  table.entries.any (·.identifier = identifier)

/-- The values of a name; a name that is not bound has none. -/
def lookup (table : BindingTable) (identifier : String) : List String :=
  ((table.entries.find? (·.identifier = identifier)).map (·.values)).getD []

/-- Adds the values of a binding to those of its name, or a new name at the end. -/
def addTo : List Binding → Binding → List Binding
  | [], binding => [⟨binding.identifier, addValues [] binding.values⟩]
  | entry :: rest, binding =>
      if entry.identifier = binding.identifier then
        ⟨entry.identifier, addValues entry.values binding.values⟩ :: rest
      else
        entry :: addTo rest binding

def add (table : BindingTable) (binding : Binding) : BindingTable :=
  ⟨addTo table.entries binding⟩

/-- The table of bindings that arrive one after the other. -/
def ofList (bindings : List Binding) : BindingTable := bindings.foldl add empty

end BindingTable

end AssetAudit
