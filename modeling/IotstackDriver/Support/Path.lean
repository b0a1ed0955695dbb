import Mathlib.Logic.Function.Basic
import Mathlib.Data.List.Basic
import Mathlib.Tactic.Common

/-! Chains of nodes under a link that each node may hold. The link of a node that
does not exist is not defined, and a path never runs through such a node. -/

namespace IotstackDriver.Support

variable {α : Type} {link : α → Option (Option α)} {start stop other : Option α} {nodes more : List α}
  {node last : α}

/-- The nodes met by following the links from `start` until `stop`. -/
inductive Path (link : α → Option (Option α)) : Option α → List α → Option α → Prop
  | stop {stop : Option α} : Path link stop [] stop
  | follow {node : α} {next stop : Option α} {nodes : List α} (found : link node = some next)
      (path : Path link next nodes stop) : Path link (some node) (node :: nodes) stop

@[simp] theorem path_nil : Path link start [] stop ↔ start = stop := by
  constructor
  · intro path
    cases path
    rfl
  · rintro rfl
    exact .stop

theorem path_cons : Path link start (node :: nodes) stop ↔
    start = some node ∧ ∃ next, link node = some next ∧ Path link next nodes stop := by
  constructor
  · intro path
    cases path with
    | follow found path => exact ⟨rfl, _, found, path⟩
  · rintro ⟨rfl, next, found, path⟩
    exact .follow found path

theorem path_append : Path link start (nodes ++ more) stop ↔
    ∃ middle, Path link start nodes middle ∧ Path link middle more stop := by
  induction nodes generalizing start with
  | nil => simp
  | cons node rest ih =>
    simp only [List.cons_append, path_cons, ih]
    constructor
    · rintro ⟨rfl, next, found, middle, first, second⟩
      exact ⟨middle, ⟨rfl, next, found, first⟩, second⟩
    · rintro ⟨middle, ⟨rfl, next, found, first⟩, second⟩
      exact ⟨rfl, next, found, middle, first, second⟩

theorem path_concat : Path link start (nodes ++ [last]) stop ↔
    Path link start nodes (some last) ∧ link last = some stop := by
  rw [path_append]
  constructor
  · rintro ⟨middle, first, second⟩
    obtain ⟨rfl, next, found, ended⟩ := path_cons.mp second
    exact ⟨first, by rw [found, path_nil.mp ended]⟩
  · rintro ⟨first, found⟩
    exact ⟨some last, first, .follow found .stop⟩

namespace Path

theorem start_eq (path : Path link start nodes stop) : start = nodes.head?.or stop := by
  cases path <;> rfl

theorem linked (path : Path link start nodes stop) (member : node ∈ nodes) :
    ∃ next, link node = some next := by
  induction path with
  | stop => cases member
  | follow found path ih =>
    rcases List.mem_cons.mp member with rfl | later
    · exact ⟨_, found⟩
    · exact ih later

theorem congr {other : α → Option (Option α)} (path : Path link start nodes stop)
    (same : ∀ node ∈ nodes, other node = link node) : Path other start nodes stop := by
  induction path with
  | stop => exact .stop
  | follow found path ih =>
    exact .follow ((same _ (by simp)).trans found) (ih fun node later => same node (by simp [later]))

variable {value : Option (Option α)}

variable [DecidableEq α]

/-- A link outside the path does not matter. -/
theorem update (path : Path link start nodes stop) (absent : node ∉ nodes) :
    Path (Function.update link node value) start nodes stop := by
  induction path with
  | stop => exact .stop
  | follow found path ih =>
    obtain ⟨different, later⟩ := List.ne_and_not_mem_of_not_mem_cons absent
    exact .follow (by rwa [Function.update_of_ne (Ne.symm different)]) (ih later)

/-- The last link decides where the path stops. -/
theorem redirect (path : Path link start (nodes ++ [last]) stop) (absent : last ∉ nodes) :
    Path (Function.update link last (some other)) start (nodes ++ [last]) other := by
  obtain ⟨first, -⟩ := path_concat.mp path
  exact path_concat.mpr ⟨first.update absent, Function.update_self ..⟩

/-- The way past a node in the middle. -/
theorem bypass (path : Path link start (nodes ++ last :: node :: more) stop)
    (distinct : (nodes ++ last :: node :: more).Nodup) :
    Path (Function.update link last (some (more.head?.or stop))) start (nodes ++ last :: more) stop := by
  obtain ⟨-, rest, separate⟩ := List.nodup_append.mp distinct
  have absent : last ∉ nodes := fun member => separate last member last (by simp) rfl
  have later : last ∉ node :: more := (List.nodup_cons.mp rest).1
  obtain ⟨middle, first, second⟩ := path_append.mp path
  obtain ⟨rfl, next, -, rest⟩ := path_cons.mp second
  obtain ⟨-, after, -, rest⟩ := path_cons.mp rest
  refine path_append.mpr ⟨_, first.update absent, .follow (Function.update_self ..) ?_⟩
  rw [← rest.start_eq]
  exact rest.update fun member => later (List.mem_cons_of_mem _ member)

/-- A new first node in front of a path. -/
theorem extend (path : Path link start nodes stop) (absent : node ∉ nodes) :
    Path (Function.update link node (some start)) (some node) (node :: nodes) stop :=
  .follow (Function.update_self ..) (path.update absent)

end Path

end IotstackDriver.Support
