import PreviewServer.Proofs.Session

/-!
# Confinement to the served directory

Components that never go up lead along one path, and following them looks at nothing but the
beginnings of that path. The components of a request never go up. So a request looks at the way to
the served directory and at what lies below it, and what lies elsewhere in the tree has no part in
any answer.

## Main definitions

* `withoutDots`: components without those that stay where they are
* `FileTree.AgreeBelow`: trees with the same entries at and below a path
* `FileTree.AgreeAround`: the same, and also on the way to the path

## Main results

* `FileTree.eq_append_of_follow`: where components that do not go up lead
* `FileTree.lookup_congr`: what they look at on their way
* `requestComponents?_level`: the components of a request do not go up
* `FileTree.AgreeAround.serveFiles_eq`: the file service looks only around its directory
* `FileTree.AgreeAround.run_eq`: a session notices nothing else of the tree either
* `Router.confined_to_root`: nothing outside the served directory is observable
-/

namespace PreviewServer

/-- The path that components name when none of them goes up: those that stay do not count. -/
def withoutDots (cs : List String) : Path := cs.filter (· ≠ ".")

theorem withoutDots_dot_cons (cs : List String) : withoutDots ("." :: cs) = withoutDots cs :=
  List.filter_cons_of_neg (by simp)

theorem withoutDots_cons {c : String} (name : c ≠ ".") (cs : List String) :
    withoutDots (c :: cs) = c :: withoutDots cs :=
  List.filter_cons_of_pos (by simpa using name)

theorem withoutDots_append (cs ds : List String) :
    withoutDots (cs ++ ds) = withoutDots cs ++ withoutDots ds :=
  List.filter_append cs ds

/-! ## Following components that do not go up -/

namespace FileTree

section Follow

variable {t : FileTree} {place target : Path} {c : String} {cs : List String}

theorem follow_dot (t : FileTree) (place : Path) (cs : List String) :
    t.follow place ("." :: cs) =
      if t.get? place ≠ some .directory then .error .notDirectory else t.follow place cs := by
  rw [follow, if_pos rfl]

theorem follow_name (t : FileTree) (place : Path) (name : c ≠ ".") (level : c ≠ "..")
    (cs : List String) :
    t.follow place (c :: cs) =
      if t.get? place ≠ some .directory then .error .notDirectory
      else if 255 < (utf8 c).length then .error .nameTooLong
      else if t.get? (place ++ [c]) = none then .error .missing
      else t.follow (place ++ [c]) cs := by
  rw [follow, if_neg name, if_neg level]

/-- One component is followed from a directory; it leads to that directory again, or to the entry
with its name. -/
theorem follow_cons_cases (level : c ≠ "..") (followed : t.follow place (c :: cs) = .ok target) :
    t.get? place = some .directory ∧
      ((c = "." ∧ t.follow place cs = .ok target) ∨
        (c ≠ "." ∧ t.follow (place ++ [c]) cs = .ok target)) := by
  by_cases dot : c = "."
  · subst dot
    rw [follow_dot] at followed
    split_ifs at followed with other
    exact ⟨not_not.mp other, .inl ⟨rfl, followed⟩⟩
  · rw [follow_name t place dot level] at followed
    -- Of the four ends, three are errors.
    split_ifs at followed with other
    exact ⟨not_not.mp other, .inr ⟨dot, followed⟩⟩

/-- Components that do not go up lead to the path that they name. -/
theorem eq_append_of_follow (level : ".." ∉ cs) (followed : t.follow place cs = .ok target) :
    target = place ++ withoutDots cs := by
  induction cs generalizing place with
  | nil =>
    obtain rfl := Except.ok.inj followed
    simp [withoutDots]
  | cons c cs ih =>
    rw [List.mem_cons, not_or] at level
    rcases (follow_cons_cases (Ne.symm level.1) followed).2 with ⟨rfl, next⟩ | ⟨name, next⟩
    · rw [withoutDots_dot_cons, ih level.2 next]
    · rw [withoutDots_cons name, ih level.2 next, List.append_assoc, List.singleton_append]

/-- On the way to a directory there are directories only. -/
theorem directory_of_follow (level : ".." ∉ cs) (followed : t.follow place cs = .ok target)
    (there : t.get? target = some .directory) {way : Path} (before : way <+: withoutDots cs) :
    t.get? (place ++ way) = some .directory := by
  induction cs generalizing place way with
  | nil =>
    obtain rfl := Except.ok.inj followed
    obtain rfl : way = [] := List.prefix_nil.mp before
    rwa [List.append_nil]
  | cons c cs ih =>
    rw [List.mem_cons, not_or] at level
    obtain ⟨here, ⟨rfl, next⟩ | ⟨name, next⟩⟩ := follow_cons_cases (Ne.symm level.1) followed
    · rw [withoutDots_dot_cons] at before
      exact ih level.2 next before
    · rw [withoutDots_cons name] at before
      -- The way ends here, or it goes on with the name.
      rcases List.prefix_cons_iff.mp before with rfl | ⟨rest, rfl, before'⟩
      · rwa [List.append_nil]
      · rw [← List.singleton_append, ← List.append_assoc]
        exact ih level.2 next before'

end Follow

section Reading

variable {t₁ t₂ : FileTree}

/-- Following components that do not go up looks only at the way along the path that they name. -/
theorem follow_congr {place : Path} {cs : List String} (level : ".." ∉ cs)
    (agree : ∀ way, way <+: withoutDots cs → t₁.get? (place ++ way) = t₂.get? (place ++ way)) :
    t₁.follow place cs = t₂.follow place cs := by
  -- The place moves on with each name, and what is left of the way gets shorter.
  induction cs generalizing place with
  | nil => rfl
  | cons c cs ih =>
    have here : t₁.get? place = t₂.get? place := by
      simpa using agree [] List.nil_prefix
    rw [List.mem_cons, not_or] at level
    by_cases dot : c = "."
    · subst dot
      rw [withoutDots_dot_cons] at agree
      rw [follow_dot, follow_dot, here, ih level.2 agree]
    · rw [withoutDots_cons dot] at agree
      have next : t₁.get? (place ++ [c]) = t₂.get? (place ++ [c]) :=
        agree [c] (List.prefix_append [c] _)
      have rest : t₁.follow (place ++ [c]) cs = t₂.follow (place ++ [c]) cs := by
        refine ih level.2 fun way before => ?_
        rw [List.append_assoc, List.singleton_append]
        exact agree (c :: way) (List.cons_prefix_cons.mpr ⟨rfl, before⟩)
      rw [follow_name t₁ place dot (Ne.symm level.1), follow_name t₂ place dot (Ne.symm level.1),
        here, next, rest]

/-- **A lookup that does not go up looks only at the beginnings of the path that it names.** -/
theorem lookup_congr {cs : List String} (level : ".." ∉ cs)
    (agree : ∀ way, way <+: withoutDots cs → t₁.get? way = t₂.get? way) :
    t₁.lookup cs = t₂.lookup cs := by
  have followed : t₁.follow [] cs = t₂.follow [] cs :=
    follow_congr level fun way before => agree way before
  unfold lookup
  rw [followed]
  cases reached : t₂.follow [] cs with
  | error e => rfl
  | ok target =>
    obtain rfl : target = withoutDots cs := eq_append_of_follow level reached
    simp only [agree _ List.prefix_rfl]

end Reading

/-! ## Trees that agree around a directory -/

/-- Whether two trees have the same entries at a path and below it. -/
def AgreeBelow (t₁ t₂ : FileTree) (root : Path) : Prop :=
  ∀ path, root <+: path → t₁.get? path = t₂.get? path

/-- Whether two trees have the same entries below a path and on the way to it. -/
def AgreeAround (t₁ t₂ : FileTree) (root : Path) : Prop :=
  ∀ path, path <+: root ∨ root <+: path → t₁.get? path = t₂.get? path

section Agreement

variable {t t₁ t₂ : FileTree} {root : List String}

theorem lookup_of_isDirectory {cs : List String} (directory : t.isDirectory cs = true) :
    t.lookup cs = .ok .directory := by
  unfold isDirectory at directory
  split at directory
  · assumption
  · cases directory

theorem exists_follow_of_lookup {cs : List String} {e : Entry} (found : t.lookup cs = .ok e) :
    ∃ target, t.follow [] cs = .ok target ∧ t.get? target = some e := by
  unfold lookup at found
  split at found
  · cases found
  · cases reached : t.follow [] cs with
    | error error =>
      rw [reached] at found
      cases found
    | ok target =>
      refine ⟨target, rfl, ?_⟩
      simp only [reached] at found
      split at found
      · rename_i entry
        rw [entry, Except.ok.inj found]
      · cases found

/-- Trees that agree below a directory of both agree on the way to it as well. -/
theorem AgreeBelow.around (below : AgreeBelow t₁ t₂ (withoutDots root)) (level : ".." ∉ root)
    (there₁ : t₁.isDirectory root = true) (there₂ : t₂.isDirectory root = true) :
    AgreeAround t₁ t₂ (withoutDots root) := by
  intro path near
  rcases near with before | after
  · -- Both trees have a directory there.
    obtain ⟨_, followed₁, entry₁⟩ := exists_follow_of_lookup (lookup_of_isDirectory there₁)
    obtain ⟨_, followed₂, entry₂⟩ := exists_follow_of_lookup (lookup_of_isDirectory there₂)
    have directory₁ := directory_of_follow level followed₁ entry₁ before
    have directory₂ := directory_of_follow level followed₂ entry₂ before
    exact directory₁.trans directory₂.symm
  · exact below path after

/-- Components that do not go up from a directory are looked up around it. -/
theorem AgreeAround.lookup_eq (agree : AgreeAround t₁ t₂ (withoutDots root))
    (level : ".." ∉ root) {cs : List String} (level' : ".." ∉ cs) :
    t₁.lookup (root ++ cs) = t₂.lookup (root ++ cs) := by
  refine lookup_congr (List.not_mem_append level level') fun way before => agree way ?_
  rw [withoutDots_append] at before
  -- Two beginnings of one path: one of them begins the other.
  exact List.prefix_or_prefix_of_prefix before (List.prefix_append _ _)

end Agreement

end FileTree

/-! ## Requests -/

/-- The components of a request do not go up. -/
theorem requestComponents?_level {path : String} {cs : List String}
    (named : requestComponents? path = some cs) : ".." ∉ cs := by
  obtain ⟨text, -, relative⟩ := Option.bind_eq_some_iff.mp named
  unfold relativeComponents? at relative
  split at relative
  · cases relative
  · rename_i inside
    rw [not_or] at inside
    obtain rfl := Option.some.inj relative
    intro up
    exact inside.2 (List.mem_of_mem_filter up)

namespace FileTree.AgreeAround

variable {t₁ t₂ : FileTree} {root : List String}

theorem respondAt_eq (agree : AgreeAround t₁ t₂ (withoutDots root)) (level : ".." ∉ root)
    (q : Request) {cs : List String} (level' : ".." ∉ cs) :
    respondAt t₁ q (root ++ cs) = respondAt t₂ q (root ++ cs) := by
  have found := agree.lookup_eq level level'
  -- The page of a directory is one more name, and that name does not go up either.
  have page : t₁.lookup (root ++ cs ++ [indexPage]) = t₂.lookup (root ++ cs ++ [indexPage]) := by
    rw [List.append_assoc]
    exact agree.lookup_eq level (List.not_mem_append level' (by decide))
  have directory : t₁.isDirectory (root ++ cs) = t₂.isDirectory (root ++ cs) := by
    unfold isDirectory
    rw [found]
  unfold respondAt respondFrom
  rw [directory, found, page]

/-- The file service looks only around its directory. -/
theorem serveFiles_eq (agree : AgreeAround t₁ t₂ (withoutDots root)) (level : ".." ∉ root) :
    serveFiles t₁ root = serveFiles t₂ root := by
  funext q
  unfold serveFiles
  split
  · rfl
  · cases named : requestComponents? q.path with
    | none => rfl
    | some cs => exact agree.respondAt_eq level q (requestComponents?_level named)

theorem handle_eq {r : Router} (agree : AgreeAround t₁ t₂ (withoutDots r.root))
    (level : ".." ∉ r.root) : r.handle t₁ = r.handle t₂ := by
  unfold Router.handle
  rw [agree.serveFiles_eq level]

/-! ## Sessions -/

/-- A change makes the same difference to the entry at a path in every tree that has the same entry
there. -/
theorem apply_step {root : Path} (agree : AgreeAround t₁ t₂ root) (step : Step) :
    AgreeAround (step.apply t₁) (step.apply t₂) root := by
  intro path near
  have same := agree path near
  rcases eq_or_ne path [] with rfl | below
  · rfl
  · cases step with
    | request q => exact same
    | write target entry =>
      show (t₁.write target entry).get? path = (t₂.write target entry).get? path
      rw [get?_write t₁ entry below, get?_write t₂ entry below, same]
    | remove target =>
      show (t₁.remove target).get? path = (t₂.remove target).get? path
      rw [get?_remove t₁ target below, get?_remove t₂ target below, same]

/-- A session notices nothing of a tree but what is around the served directory. -/
theorem run_eq {r : Router} (agree : AgreeAround t₁ t₂ (withoutDots r.root))
    (level : ".." ∉ r.root) (steps : List Step) : r.run t₁ steps = r.run t₂ steps := by
  induction steps generalizing t₁ t₂ with
  | nil => rfl
  | cons step steps ih =>
    have first : r.outcome t₁ step = r.outcome t₂ step := by
      cases step with
      | request q =>
        simp only [Router.outcome, agree.handle_eq level]
      | write target entry => rfl
      | remove target => rfl
    rw [Router.run, Router.run, first, ih (agree.apply_step step)]

end FileTree.AgreeAround

/-! ## The served directory -/

section Router

variable {root : List String} {p : Policy} {r : Router}

/-- **Nothing outside the served directory is observable.** Let a directory be named without going
up, and let two trees have the same entries at it and below it. Then every request gets the same
answer on both, whether it is replied to or broken off, and so does every session. -/
theorem Router.confined_to_root (built : Router.build root p = .ok r) (level : ".." ∉ root)
    {tree₁ tree₂ : FileTree} (there₁ : tree₁.isDirectory root = true)
    (there₂ : tree₂.isDirectory root = true)
    (below : tree₁.AgreeBelow tree₂ (withoutDots root)) :
    (∀ q, r.handle tree₁ q = r.handle tree₂ q) ∧
      ∀ steps, r.run tree₁ steps = r.run tree₂ steps := by
  obtain ⟨fields, -, rfl⟩ := Router.build_eq_ok_iff.mp built
  have agree := below.around level there₁ there₂
  refine ⟨fun q => ?_, fun steps => agree.run_eq level steps⟩
  rw [agree.handle_eq level]

/-- A tree with a page in a directory, and a note beside the directory. -/
def treeWithNote (note : Bytes) : FileTree :=
  (FileTree.empty.write ["site", "a.txt"] (.file [104, 105] 0)).write ["note"] (.file note 0)

/-- Two notes beside the served directory make no difference, although the page in it is served and
a request tries to climb to the note. -/
theorem Router.confined_to_root_note :
    ∃ r reply denied, Router.build ["site"] devPolicy = .ok r ∧
      (treeWithNote [1]).get? ["note"] ≠ (treeWithNote [2]).get? ["note"] ∧
      r.handle (treeWithNote [1]) ⟨.get, .origin "/a.txt" none, .empty⟩ = .ok reply ∧
      r.handle (treeWithNote [2]) ⟨.get, .origin "/a.txt" none, .empty⟩ = .ok reply ∧
      reply.response.body = [104, 105] ∧
      r.handle (treeWithNote [1]) ⟨.get, .origin "/%2e%2e/note" none, .empty⟩ = .ok denied ∧
      r.handle (treeWithNote [2]) ⟨.get, .origin "/%2e%2e/note" none, .empty⟩ = .ok denied ∧
      denied.response.status = .notFound := by
  have below : (treeWithNote [1]).AgreeBelow (treeWithNote [2]) (withoutDots ["site"]) := by
    rintro path ⟨rest, rfl⟩
    simp [withoutDots, treeWithNote, FileTree.get?, FileTree.write]
  have confined := (@Router.confined_to_root ["site"] devPolicy _ rfl (by decide) _ _ (by decide)
    (by decide) below).1
  refine ⟨_, _, _, rfl, by decide, rfl, ?_, rfl, rfl, ?_, rfl⟩
  · rw [← confined]
    rfl
  · rw [← confined]
    rfl

end Router

end PreviewServer
