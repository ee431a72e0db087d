/-!
# Named entries

Lists of values with the names they go by. An entry keeps its position when its value is
replaced, and a new one comes last.
-/
namespace CgroupBench.Simulation

variable {α : Type}

def assign (name : String) (value : α) : List (String × α) → List (String × α)
  | [] => [(name, value)]
  | (other, kept) :: rest =>
    if other = name then (name, value) :: rest else (other, kept) :: assign name value rest

def remove (name : String) (entries : List (String × α)) : List (String × α) :=
  entries.filter fun entry => entry.1 ≠ name

theorem lookup_cons_eq (name other : String) (value : α) (rest : List (String × α)) :
    ((other, value) :: rest).lookup name =
      if name = other then some value else rest.lookup name := by
  by_cases same : name = other
  · simp [same]
  · simp [List.lookup_cons, beq_false_of_ne same, same]

theorem lookup_assign (name other : String) (value : α) (entries : List (String × α)) :
    (assign name value entries).lookup other =
      if other = name then some value else entries.lookup other := by
  induction entries with
  | nil => exact lookup_cons_eq other name value []
  | cons entry rest ih =>
    obtain ⟨first, kept⟩ := entry
    by_cases found : first = name
    · rw [assign, if_pos found, lookup_cons_eq, lookup_cons_eq, found]
      by_cases asked : other = name <;> simp [asked]
    · rw [assign, if_neg found, lookup_cons_eq, lookup_cons_eq, ih]
      by_cases asked : other = first
      · simp [asked, found]
      · simp [asked]

theorem lookup_remove (name other : String) (entries : List (String × α)) :
    (remove name entries).lookup other =
      if other = name then none else entries.lookup other := by
  induction entries with
  | nil => exact (ite_self none).symm
  | cons entry rest ih =>
    obtain ⟨first, kept⟩ := entry
    by_cases found : first = name
    · have dropped : remove name ((first, kept) :: rest) = remove name rest := by
        simp [remove, found]
      rw [dropped, ih, lookup_cons_eq, found]
      by_cases asked : other = name <;> simp [asked]
    · have stays : remove name ((first, kept) :: rest) = (first, kept) :: remove name rest := by
        simp [remove, found]
      rw [stays, lookup_cons_eq, lookup_cons_eq, ih]
      by_cases asked : other = first
      · simp [asked, found]
      · simp [asked]

end CgroupBench.Simulation
