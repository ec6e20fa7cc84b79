import FileMode.FileSystem.Status
import FileMode.SystemError

namespace FileMode.FileSystem

structure Entry where
  status : Status Timestamp
  link : Option String
  statFault : Option Fault
  chmodFault : Option Fault
  deriving DecidableEq

def Entry.setPerms (p : Perms) (e : Entry) : Entry :=
  { e with status := { e.status with mode := { e.status.mode with perms := p } } }

abbrev Rows := List (String × Entry)

namespace Rows

def Ascending (rows : Rows) : Prop := rows.Pairwise fun a b => a.1 < b.1

def insert (path : String) (e : Entry) : Rows → Rows
  | [] => [(path, e)]
  | (q, f) :: rows =>
    if path < q then (path, e) :: (q, f) :: rows
    else if path = q then (path, e) :: rows
    else (q, f) :: insert path e rows

def erase (path : String) (rows : Rows) : Rows := rows.filter (·.1 ≠ path)

def modify (path : String) (change : Entry → Entry) (rows : Rows) : Rows :=
  rows.map fun (q, f) => (q, if q = path then change f else f)

theorem mem_insert {path : String} {e : Entry} {rows : Rows} {row : String × Entry}
    (h : row ∈ insert path e rows) : row = (path, e) ∨ row ∈ rows := by
  fun_induction insert path e rows <;> grind

theorem ascending_insert (path : String) (e : Entry) {rows : Rows} (h : rows.Ascending) :
    (insert path e rows).Ascending := by
  fun_induction insert path e rows with
  | case1 => exact List.pairwise_singleton _ _
  | case2 q f rows hlt =>
    refine List.pairwise_cons.mpr ⟨?_, h⟩
    intro row hrow
    rcases List.mem_cons.mp hrow with rfl | hrow
    · exact hlt
    · exact String.lt_trans hlt ((List.pairwise_cons.mp h).1 _ hrow)
  | case3 f rows hlt =>
    exact List.pairwise_cons.mpr (List.pairwise_cons.mp h)
  | case4 q f rows hlt hne ih =>
    obtain ⟨hall, hrest⟩ := List.pairwise_cons.mp h
    refine List.pairwise_cons.mpr ⟨?_, ih hrest⟩
    intro row hrow
    rcases mem_insert hrow with rfl | hrow
    · exact Decidable.byContradiction fun hge => hne (String.le_antisymm hge hlt)
    · exact hall _ hrow

theorem ascending_erase (path : String) {rows : Rows} (h : rows.Ascending) :
    (erase path rows).Ascending :=
  List.Pairwise.filter _ h

theorem ascending_modify (path : String) (change : Entry → Entry) {rows : Rows}
    (h : rows.Ascending) : (modify path change rows).Ascending :=
  List.Pairwise.map _ (fun _ _ hlt => hlt) h

end Rows

structure Table where
  rows : Rows
  ascending : rows.Ascending

namespace Table

def empty : Table := ⟨[], List.Pairwise.nil⟩

def find? (t : Table) (path : String) : Option Entry := t.rows.lookup path

def put (t : Table) (path : String) (e : Entry) : Table :=
  ⟨Rows.insert path e t.rows, Rows.ascending_insert path e t.ascending⟩

def remove (t : Table) (path : String) : Table :=
  ⟨Rows.erase path t.rows, Rows.ascending_erase path t.ascending⟩

def modify (t : Table) (path : String) (change : Entry → Entry) : Table :=
  ⟨Rows.modify path change t.rows, Rows.ascending_modify path change t.ascending⟩

def ofList (rows : List (String × Entry)) : Table :=
  rows.foldl (fun t (path, e) => t.put path e) empty

def modes (t : Table) : List (String × Mode) := t.rows.map fun (path, e) => (path, e.status.mode)

/-- The entries that a walk may look at; the links it follows are one fewer. -/
def maxVisits : Nat := 41

def absent : Fault := ⟨some 2, some "No such file or directory"⟩

def tooManyLinks : Fault := ⟨some 40, some "Too many levels of symbolic links"⟩

def walkFrom (t : Table) (fault : Entry → Option Fault) (follow : Bool) :
    Nat → String → Except Fault (String × Entry)
  | 0, _ => .error tooManyLinks
  | visits + 1, path =>
    match t.find? path with
    | none => .error absent
    | some e =>
      match fault e, e.link with
      | some f, _ => .error f
      | none, some target =>
        if follow then t.walkFrom fault follow visits target else .ok (path, e)
      | none, none => .ok (path, e)

def walk (t : Table) (fault : Entry → Option Fault) (follow : Bool) (path : String) :
    Except Fault (String × Entry) :=
  t.walkFrom fault follow maxVisits path

end Table

end FileMode.FileSystem
