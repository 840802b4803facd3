import ApiClient.Files.Path
import Mathlib.Data.List.DropRight

/-! Relative paths by the course that they take: so many steps up, and then segments down. A
path leads from a directory where its course does, and the steps from one place to another
change the one course into the other wherever both climb equally high. -/

namespace ApiClient.Path

/-! ## Segments -/

/-- What a path can hold between its slashes. -/
structure IsStep (segment : Text) : Prop where
  nonempty : segment ≠ []
  undivided : CodePoint.char '/' ∉ segment
  notDot : segment ≠ "."

/-- A step down, to what the segment names. -/
structure IsName (segment : Text) : Prop extends IsStep segment where
  notUpward : segment ≠ upward

instance (segment : Text) : Decidable (IsName segment) :=
  decidable_of_iff
    (segment ≠ [] ∧ CodePoint.char '/' ∉ segment ∧ segment ≠ "." ∧ segment ≠ upward)
    ⟨fun ⟨nonempty, undivided, notDot, notUpward⟩ => ⟨⟨nonempty, undivided, notDot⟩, notUpward⟩,
      fun ⟨⟨nonempty, undivided, notDot⟩, notUpward⟩ => ⟨nonempty, undivided, notDot, notUpward⟩⟩

theorem isStep_upward : IsStep upward :=
  ⟨by decide, by decide, by decide⟩

theorem isStep_of_mem_segmentsOf {text segment : Text} (member : segment ∈ segmentsOf text) :
    IsStep segment := by
  obtain ⟨part, proper⟩ := List.mem_filter.mp member
  obtain ⟨nonempty, notDot⟩ := Bool.and_eq_true_iff.mp proper
  refine ⟨bne_iff_ne.mp nonempty, fun slash => ?_, bne_iff_ne.mp notDot⟩
  simpa using Text.not_separates_of_mem_split part slash

/-! ## Courses -/

/-- So many steps up, and segments down from there. -/
structure Course where
  climb : Nat := 0
  descent : List Text := []
  deriving DecidableEq, Repr

namespace Course

/-- One segment further. A double dot takes back the last step down, if there is one. -/
def step (course : Course) (segment : Text) : Course :=
  if segment = "." then course
  else if segment = upward then
    if course.descent = [] then { course with climb := course.climb + 1 }
    else { course with descent := course.descent.dropLast }
  else { course with descent := course.descent ++ [segment] }

def follow (course : Course) (segments : List Text) : Course :=
  segments.foldl step course

def segments (course : Course) : List Text :=
  List.replicate course.climb upward ++ course.descent

/-- Where a course leads from a directory. Nothing is above the root. -/
def place (directory : List Text) (course : Course) : List Text :=
  directory.rdrop course.climb ++ course.descent

theorem follow_append (course : Course) (before after : List Text) :
    course.follow (before ++ after) = (course.follow before).follow after :=
  List.foldl_append

theorem follow_filter (course : Course) (segments : List Text)
    (nonempty : ∀ part ∈ segments, part ≠ []) :
    course.follow (segments.filter isSegment) = course.follow segments := by
  induction segments generalizing course with
  | nil => rfl
  | cons segment rest induction =>
      obtain ⟨here, further⟩ := List.forall_mem_cons.mp nonempty
      by_cases dot : segment = "."
      · have stays : course.step segment = course := if_pos dot
        rw [List.filter_cons_of_neg (by simp [isSegment, dot]), induction course further]
        change _ = (course.step segment).follow rest
        rw [stays]
      · rw [List.filter_cons_of_pos (by simp [isSegment, dot, here])]
        exact induction _ further

/-! ### Where a course leads -/

private theorem dropLast_rdrop (directory : List Text) (climb : Nat) :
    (directory.rdrop climb).dropLast = directory.rdrop (climb + 1) := by
  simp only [List.rdrop, List.dropLast_eq_take, List.take_take, List.length_take]
  congr 1
  omega

private theorem place_step (directory : List Text) (course : Course) (segment : Text) :
    (course.step segment).place directory = stepFrom (course.place directory) segment := by
  unfold step stepFrom
  split
  · rfl
  · split
    · split
      · rename_i level
        rw [place, place, level, List.append_nil, List.append_nil, dropLast_rdrop]
      · rename_i deeper
        exact (List.dropLast_append_of_ne_nil deeper).symm
    · exact (List.append_assoc _ _ _).symm

private theorem place_follow (directory : List Text) (course : Course) (segments : List Text) :
    (course.follow segments).place directory =
      segments.foldl stepFrom (course.place directory) := by
  induction segments generalizing course with
  | nil => rfl
  | cons segment rest induction =>
      rw [List.foldl_cons, ← place_step]
      exact induction (course.step segment)

/-! ### Steps up and steps down -/

private theorem step_upward (climb : Nat) (base : List Text) (segment : Text) :
    step ⟨climb, base ++ [segment]⟩ upward = ⟨climb, base⟩ := by
  have deeper : base ++ [segment] ≠ [] := by simp
  rw [step, if_neg isStep_upward.notDot, if_pos rfl, if_neg deeper, List.dropLast_concat]

private theorem follow_upward (climb : Nat) (base segments : List Text) :
    follow ⟨climb, base ++ segments⟩ (List.replicate segments.length upward) = ⟨climb, base⟩ := by
  induction segments using List.reverseRecOn with
  | nil => simp [follow]
  | append_singleton segments segment induction =>
      rw [List.length_append, List.length_singleton, List.replicate_succ, ← List.append_assoc]
      change follow (step ⟨climb, base ++ segments ++ [segment]⟩ upward) _ = _
      rw [step_upward, induction]

private theorem follow_climbing (climb further : Nat) :
    follow ⟨climb, []⟩ (List.replicate further upward) = ⟨climb + further, []⟩ := by
  induction further generalizing climb with
  | zero => rfl
  | succ further induction =>
      rw [List.replicate_succ]
      change follow ⟨climb + 1, []⟩ _ = _
      rw [induction, Nat.add_right_comm, Nat.add_assoc]

theorem follow_names (climb : Nat) (base : List Text) {names : List Text}
    (each : ∀ name ∈ names, IsName name) :
    follow ⟨climb, base⟩ names = ⟨climb, base ++ names⟩ := by
  induction names generalizing base with
  | nil => rw [List.append_nil]; rfl
  | cons name rest induction =>
      obtain ⟨here, further⟩ := List.forall_mem_cons.mp each
      have down : step ⟨climb, base⟩ name = ⟨climb, base ++ [name]⟩ := by
        rw [step, if_neg here.notDot, if_neg here.notUpward]
      change follow (step ⟨climb, base⟩ name) rest = _
      rw [down, induction _ further, List.append_assoc, List.singleton_append]

/-- A course never goes down but to what its segments name. -/
theorem isName_of_mem_descent {course : Course} (each : ∀ name ∈ course.descent, IsName name)
    {segments : List Text}
    (parts : ∀ part ∈ segments, part ≠ [] ∧ CodePoint.char '/' ∉ part) :
    ∀ name ∈ (course.follow segments).descent, IsName name := by
  induction segments generalizing course with
  | nil => exact each
  | cons segment rest induction =>
      obtain ⟨⟨nonempty, undivided⟩, further⟩ := List.forall_mem_cons.mp parts
      refine induction ?_ further
      unfold step
      split
      · exact each
      · rename_i notDot
        split
        · split
          · exact each
          · exact fun name member => each name (List.dropLast_subset _ member)
        · rename_i notUpward
          simp only [List.mem_append, List.mem_singleton]
          rintro name (member | rfl)
          · exact each name member
          · exact ⟨⟨nonempty, undivided, notDot⟩, notUpward⟩

end Course

/-- The course of a relative path. -/
def course (path : Path) : Course :=
  Course.follow {} path.segments

example : (ofText "a/../../b/./c").course = ⟨1, [("b" : Text), "c"]⟩ := by decide

theorem place_eq {path : Path} (relative : path.root = .none) (directory : List Text) :
    path.place directory = path.course.place directory := by
  have start : Course.place directory {} = directory := by
    rw [Course.place, List.append_nil, List.rdrop_zero]
  rw [course, Course.place_follow, start, place, isAbsolute, relative]
  rfl

/-- A path in the form that says nothing but its course. -/
def normal (path : Path) : Path :=
  { path with segments := path.course.segments }

/-! ## Steps between places -/

/-- Between two places one climbs up to what they share, and goes down from there. -/
theorem exists_between (start goal : List Text) :
    ∃ base above below, start = base ++ above ∧ goal = base ++ below ∧
      between start goal = List.replicate above.length upward ++ below := by
  fun_induction between start goal with
  | case1 above segment below induction =>
      obtain ⟨base, further, down, rfl, rfl, steps⟩ := induction
      exact ⟨segment :: base, further, down, rfl, rfl, steps⟩
  | case2 start above goal below differ =>
      exact ⟨[], start :: above, goal :: below, rfl, rfl, by rw [List.map_const']⟩
  | case3 above below _ => exact ⟨[], above, below, rfl, rfl, by rw [List.map_const']⟩

private theorem between_append (base start goal : List Text) :
    between (base ++ start) (base ++ goal) = between start goal := by
  induction base with
  | nil => rfl
  | cons segment base induction =>
      rw [List.cons_append, List.cons_append, between, if_pos rfl, induction]

theorem length_between_le (start goal : List Text) :
    (between start goal).length ≤ start.length + goal.length := by
  obtain ⟨base, above, below, rfl, rfl, steps⟩ := exists_between start goal
  rw [steps]
  simp only [List.length_append, List.length_replicate]
  omega

/-- Places that share nothing are far from each other. -/
theorem between_of_apart {start goal : List Text}
    (apart : ∀ name ∈ start.head?, name ∉ goal.head?) :
    between start goal = List.replicate start.length upward ++ goal := by
  obtain ⟨base, above, below, rfl, rfl, steps⟩ := exists_between start goal
  cases base with
  | nil => exact steps
  | cons name base => exact absurd rfl (apart name rfl)

/-- From a place to one above it there are only steps up. -/
theorem between_of_prefix (goal further : List Text) :
    between (goal ++ further) goal = List.replicate further.length upward := by
  have up : between (goal ++ further) (goal ++ []) = between further [] :=
    between_append goal further []
  rw [List.append_nil] at up
  rw [up, between_of_apart fun _ _ => by simp, List.append_nil]

theorem isStep_of_mem_between {start goal : List Text} (names : ∀ name ∈ goal, IsStep name) :
    ∀ step ∈ between start goal, IsStep step := by
  obtain ⟨base, above, below, rfl, rfl, steps⟩ := exists_between start goal
  intro step member
  rw [steps, List.mem_append, List.mem_replicate] at member
  rcases member with ⟨-, rfl⟩ | member
  · exact isStep_upward
  · exact names step (List.mem_append_right base member)

namespace Course

variable {start goal : Course} {directory : List Text}

/-- Courses that climb equally high lead to places of which the steps between them
tell, wherever one starts. -/
theorem between_place (level : goal.climb = start.climb) :
    between (start.place directory) (goal.place directory) =
      between start.descent goal.descent := by
  rw [place, place, level, between_append]

theorem follow_between (level : goal.climb = start.climb)
    (names : ∀ name ∈ goal.descent, IsName name) :
    start.follow (between (start.place directory) (goal.place directory)) = goal := by
  obtain ⟨base, above, below, ofStart, ofGoal, steps⟩ := exists_between start.descent goal.descent
  have up : start.follow (List.replicate above.length upward) = ⟨start.climb, base⟩ := by
    have climbs := follow_upward start.climb base above
    rwa [← ofStart] at climbs
  have down : ∀ name ∈ below, IsName name := fun name member =>
    names name (ofGoal ▸ List.mem_append_right base member)
  rw [between_place level, steps, follow_append, up, follow_names _ _ down, ← ofGoal, ← level]

theorem isStep_of_mem_between_place (level : goal.climb = start.climb)
    (names : ∀ name ∈ goal.descent, IsName name) :
    ∀ step ∈ between (start.place directory) (goal.place directory), IsStep step := by
  rw [between_place level]
  exact isStep_of_mem_between fun name member => (names name member).toIsStep

/-- To a directory above there are only steps up, if there is one so high. -/
theorem between_place_above (above : goal.descent = []) (higher : start.climb ≤ goal.climb)
    (within : goal.climb ≤ directory.length) :
    between (start.place directory) (goal.place directory) =
      List.replicate (start.descent.length + (goal.climb - start.climb)) upward := by
  -- what lies between the two heights counts as many steps up as it has segments
  obtain ⟨further, split⟩ : directory.rdrop goal.climb <+: directory.rdrop start.climb :=
    List.take_prefix_take_left (by omega)
  have height : further.length = goal.climb - start.climb := by
    have lengths := congrArg List.length split
    simp only [List.rdrop, List.length_append, List.length_take] at lengths
    omega
  rw [place, place, above, List.append_nil, ← split, List.append_assoc, between_of_prefix,
    List.length_append, height, Nat.add_comm]

theorem follow_between_above (above : goal.descent = []) (higher : start.climb ≤ goal.climb)
    (within : goal.climb ≤ directory.length) :
    start.follow (between (start.place directory) (goal.place directory)) = goal := by
  have up : start.follow (List.replicate start.descent.length upward) = ⟨start.climb, []⟩ :=
    follow_upward start.climb [] start.descent
  rw [between_place_above above higher within, List.replicate_add, follow_append, up,
    follow_climbing, Nat.add_sub_of_le higher, ← above]

end Course

end ApiClient.Path
