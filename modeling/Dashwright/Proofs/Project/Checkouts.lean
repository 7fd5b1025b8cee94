import Mathlib
import Dashwright.Project.Discover

/-! Checkouts in the dependency cache.

Discovery serves a git dependency from a repository in the cache by checking out the version
it names. The cache starts with every repository at its last commit, and when the
repositories lie apart, a checkout of the commit a repository is at changes what no path
reads. So a walk whose dependencies all name the commits their repositories are at reads the
working directory, all along, as the cache left it: its states stay settled. -/

namespace Dashwright.Project

theorem find?_filter_of_passes {α : Type} {l : List α} {p q : α → Bool} (passes : ∀ e, q e = true → p e = true) :
    (l.filter p).find? q = l.find? q := by
  rw [List.find?_filter]
  congr 1
  funext e
  by_cases hit : q e = true
  · simp [hit, passes e hit]
  · simp [hit]

theorem find?_filter_of_fails {α : Type} {l : List α} {p q : α → Bool} (fails : ∀ e, q e = true → p e = false) :
    (l.filter p).find? q = none := by
  rw [List.find?_eq_none]
  intro e member hit
  have passed := (List.mem_filter.mp member).2
  rw [fails e hit] at passed
  cases passed

namespace Workspace

/-- Two workspaces read alike: every path holds the same entry in both. -/
def Agrees (a b : Workspace) : Prop :=
  ∀ parts, a.files.find? (·.1 == parts) = b.files.find? (·.1 == parts)

theorem Agrees.refl (a : Workspace) : a.Agrees a := fun _ => rfl

theorem Agrees.symm {a b : Workspace} (same : a.Agrees b) : b.Agrees a := fun parts => (same parts).symm

theorem Agrees.trans {a b c : Workspace} (ab : a.Agrees b) (bc : b.Agrees c) : a.Agrees c :=
  fun parts => (ab parts).trans (bc parts)

theorem Agrees.any_path {a b : Workspace} (same : a.Agrees b) (p : List String → Bool) :
    a.files.any (fun e => p e.1) = b.files.any (fun e => p e.1) := by
  -- a path held by one is held by the other, with the same entry
  have move : ∀ {x y : Workspace}, x.Agrees y → x.files.any (fun e => p e.1) = true →
      y.files.any (fun e => p e.1) = true := by
    intro x y agree held
    obtain ⟨e, member, holds⟩ := List.any_eq_true.mp held
    have found : (x.files.find? (·.1 == e.1)).isSome := List.find?_isSome.mpr ⟨e, member, by simp⟩
    rw [agree e.1] at found
    obtain ⟨e', hit⟩ := Option.isSome_iff_exists.mp found
    have named := List.find?_some hit
    simp only [beq_iff_eq] at named
    exact List.any_eq_true.mpr ⟨e', List.mem_of_find?_eq_some hit, named ▸ holds⟩
  rw [Bool.eq_iff_iff]
  exact ⟨move same, move same.symm⟩

theorem Agrees.isFileParts {a b : Workspace} (same : a.Agrees b) : a.isFileParts = b.isFileParts := by
  funext parts
  exact same.any_path (· == parts)

theorem Agrees.isDirParts {a b : Workspace} (same : a.Agrees b) : a.isDirParts = b.isDirParts := by
  funext parts
  unfold Workspace.isDirParts
  rw [same.any_path fun f => decide (f.length > parts.length) && f.take parts.length == parts]

theorem Agrees.walk {a b : Workspace} (same : a.Agrees b) : a.walk = b.walk := by
  funext path
  unfold Workspace.walk
  simp only [same.isDirParts, same.isFileParts]

theorem Agrees.read {a b : Workspace} (same : a.Agrees b) : a.read = b.read := by
  funext path
  unfold Workspace.read
  rw [same.walk, same.isDirParts]
  split <;> simp only [same _]

theorem Agrees.exists {a b : Workspace} (same : a.Agrees b) : a.exists = b.exists := by
  funext path
  simp only [Workspace.exists, Workspace.isFile, Workspace.isDir, same.walk, same.isFileParts, same.isDirParts]

theorem find?_filter_path (a : Workspace) (keep : List String → Bool) (q : List String) :
    (a.files.filter (fun e => keep e.1)).find? (·.1 == q) = if keep q then a.files.find? (·.1 == q) else none := by
  by_cases kept : keep q = true
  · rw [if_pos kept]
    refine find?_filter_of_passes fun e hit => ?_
    rw [beq_iff_eq.mp hit]
    exact kept
  · rw [if_neg kept]
    refine find?_filter_of_fails fun e hit => ?_
    rw [beq_iff_eq.mp hit]
    simpa using kept

theorem find?_write_eq (a : Workspace) (p q : List String) (t : String) :
    (a.write p t).files.find? (·.1 == q) = if q = p then some (p, t) else a.files.find? (·.1 == q) := by
  by_cases same : q = p
  · subst same
    rw [find?_write, if_pos rfl]
  · rw [if_neg same]
    unfold Workspace.write
    rw [List.find?_append, find?_filter_path a (· != p) q]
    simp [same, Ne.symm same]

theorem Agrees.write {a b : Workspace} (same : a.Agrees b) (p : List String) (t : String) :
    (a.write p t).Agrees (b.write p t) := by
  intro q
  rw [find?_write_eq, find?_write_eq, same q]

end Workspace

/-- Whether a checkout into a repository at some parts keeps a path: it lies outside them, or in
their `.git`. -/
def keptBy (base f : List String) : Bool :=
  !(f.length > base.length && f.take base.length == base) || (f.drop base.length).headD "" == ".git"

/-- The text the last file of a tree written at some path puts there, the tree placed at some
parts. -/
def treeText (base : List String) (tree : List (String × String)) (q : List String) : Option String :=
  (tree.reverse.find? (fun e => base ++ pathParts e.1 == q)).map Prod.snd

theorem find?_foldl_write (base : List String) (tree : List (String × String)) (w : Workspace) (q : List String) :
    (tree.foldl (fun w (e : String × String) => w.write (base ++ pathParts e.1) e.2) w).files.find? (·.1 == q) =
      match treeText base tree q with
      | some t => some (q, t)
      | none => w.files.find? (·.1 == q) := by
  induction tree generalizing w with
  | nil => rfl
  | cons e rest ih =>
    rw [List.foldl_cons, ih]
    unfold treeText
    rw [List.reverse_cons, List.find?_append]
    cases later : rest.reverse.find? (fun e => base ++ pathParts e.1 == q) with
    | some x =>
      have named := List.find?_some later
      simp only [beq_iff_eq] at named
      simp
    | none =>
      rw [Workspace.find?_write_eq]
      by_cases here : q = base ++ pathParts e.1
      · simp [here]
      · simp [here, Ne.symm here]

theorem find?_checkoutTree (ws : Workspace) (r : CachedRepo) (n : Nat) (q : List String) :
    (checkoutTree ws r n).files.find? (·.1 == q) =
      match treeText (pathParts r.dir) (r.treeAt n) q with
      | some t => some (q, t)
      | none => if keptBy (pathParts r.dir) q then ws.files.find? (·.1 == q) else none := by
  unfold checkoutTree
  have fold := find?_foldl_write (pathParts r.dir) (r.treeAt n)
    ⟨ws.files.filter fun e => keptBy (pathParts r.dir) e.1⟩ q
  simp only [Workspace.find?_filter_path] at fold
  exact fold

theorem Workspace.Agrees.checkoutTree {a b : Workspace} (same : a.Agrees b) (r : CachedRepo) (n : Nat) :
    (checkoutTree a r n).Agrees (checkoutTree b r n) := by
  intro q
  rw [find?_checkoutTree, find?_checkoutTree, same q]

theorem checkoutTree_again (ws : Workspace) (r : CachedRepo) (n : Nat) :
    (checkoutTree (checkoutTree ws r n) r n).Agrees (checkoutTree ws r n) := by
  intro q
  rw [find?_checkoutTree, find?_checkoutTree]
  cases treeText (pathParts r.dir) (r.treeAt n) q with
  | some t => rfl
  | none => by_cases kept : keptBy (pathParts r.dir) q = true <;> simp [kept]

/-- Two repositories neither of whose directories lies in the other's. -/
def Apart (r s : CachedRepo) : Prop :=
  ¬ pathParts r.dir <+: pathParts s.dir ∧ ¬ pathParts s.dir <+: pathParts r.dir

theorem prefix_of_treeText {base : List String} {tree : List (String × String)} {q : List String} {t : String}
    (written : treeText base tree q = some t) : base <+: q := by
  unfold treeText at written
  obtain ⟨e, found, -⟩ := Option.map_eq_some_iff.mp written
  have named := List.find?_some found
  simp only [beq_iff_eq] at named
  exact named ▸ List.prefix_append base _

theorem prefix_of_not_keptBy {base q : List String} (dropped : keptBy base q = false) : base <+: q := by
  unfold keptBy at dropped
  simp only [Bool.or_eq_false_iff, Bool.not_eq_false', Bool.and_eq_true, decide_eq_true_eq, beq_iff_eq] at dropped
  exact dropped.1.2 ▸ List.take_prefix _ _

theorem apart_outside {r s : CachedRepo} (apart : Apart r s) {q : List String} (under : pathParts r.dir <+: q)
    (m : Nat) : keptBy (pathParts s.dir) q = true ∧ treeText (pathParts s.dir) (s.treeAt m) q = none := by
  constructor
  · cases dropped : keptBy (pathParts s.dir) q with
    | true => rfl
    | false =>
      rcases List.prefix_or_prefix_of_prefix under (prefix_of_not_keptBy dropped) with inner | outer
      · exact absurd inner apart.1
      · exact absurd outer apart.2
  · cases other : treeText (pathParts s.dir) (s.treeAt m) q with
    | none => rfl
    | some u =>
      rcases List.prefix_or_prefix_of_prefix under (prefix_of_treeText other) with inner | outer
      · exact absurd inner apart.1
      · exact absurd outer apart.2

theorem checkoutTree_comm {r s : CachedRepo} (apart : Apart r s) (ws : Workspace) (n m : Nat) :
    (checkoutTree (checkoutTree ws r n) s m).Agrees (checkoutTree (checkoutTree ws s m) r n) := by
  intro q
  rw [find?_checkoutTree, find?_checkoutTree, find?_checkoutTree, find?_checkoutTree]
  cases byR : treeText (pathParts r.dir) (r.treeAt n) q with
  | some t =>
    obtain ⟨kept, unwritten⟩ := apart_outside apart (prefix_of_treeText byR) m
    simp [kept, unwritten]
  | none =>
    cases byS : treeText (pathParts s.dir) (s.treeAt m) q with
    | some u =>
      obtain ⟨kept, -⟩ := apart_outside ⟨apart.2, apart.1⟩ (prefix_of_treeText byS) n
      simp [kept]
    | none =>
      by_cases keptR : keptBy (pathParts r.dir) q = true <;>
        by_cases keptS : keptBy (pathParts s.dir) q = true <;> simp [keptR, keptS]

theorem checkoutTree_write {r : CachedRepo} {n : Nat} {p : List String} (kept : keptBy (pathParts r.dir) p = true)
    (unwritten : treeText (pathParts r.dir) (r.treeAt n) p = none) (ws : Workspace) (t : String) :
    (checkoutTree (ws.write p t) r n).Agrees ((checkoutTree ws r n).write p t) := by
  intro q
  rw [find?_checkoutTree, Workspace.find?_write_eq, Workspace.find?_write_eq, find?_checkoutTree]
  by_cases here : q = p
  · subst here
    simp [unwritten, kept]
  · simp only [here, if_false]

/-- The file naming the branch a cached repository is on. -/
def CachedRepo.headFile (r : CachedRepo) : List String := pathParts r.dir ++ [".git", "HEAD"]

/-- One repository put in place in the cache: checked out at its last commit, on `main`. -/
def cacheStep (w : Workspace) (r : CachedRepo) : Workspace :=
  (checkoutTree w r r.last).write r.headFile "ref: refs/heads/main\n"

theorem Discovery.start_ws (ws : Workspace) (repos : List CachedRepo) :
    (Discovery.start ws repos).ws = repos.foldl cacheStep ws := rfl

/-- Cached repositories laid out so that their checkouts do not meet: no directory lies in
another's, no two have one name, and no commit writes into `.git`. -/
structure CacheLayout (repos : List CachedRepo) : Prop where
  apart : repos.Pairwise Apart
  distinct : (repos.map fun r => normalizePath r.dir).Nodup
  noGitFiles : ∀ r ∈ repos, ∀ c ∈ r.commits, ∀ e ∈ c.files, (pathParts e.1).head? ≠ some ".git"

instance decidableApart (r s : CachedRepo) : Decidable (Apart r s) :=
  inferInstanceAs (Decidable (¬ pathParts r.dir <+: pathParts s.dir ∧ ¬ pathParts s.dir <+: pathParts r.dir))

theorem cacheLayout_iff (repos : List CachedRepo) : CacheLayout repos ↔ repos.Pairwise Apart ∧
    (repos.map fun r => normalizePath r.dir).Nodup ∧
      ∀ r ∈ repos, ∀ c ∈ r.commits, ∀ e ∈ c.files, (pathParts e.1).head? ≠ some ".git" :=
  ⟨fun layout => ⟨layout.apart, layout.distinct, layout.noGitFiles⟩, fun held => ⟨held.1, held.2.1, held.2.2⟩⟩

instance decidableCacheLayout (repos : List CachedRepo) : Decidable (CacheLayout repos) :=
  decidable_of_iff _ (cacheLayout_iff repos).symm

theorem mem_foldl_writeFile {e : String × String} :
    ∀ (files acc : List (String × String)),
      e ∈ files.foldl (fun acc x => acc.filter (·.1 != x.1) ++ [x]) acc → e ∈ acc ∨ e ∈ files
  | [], _, held => .inl held
  | x :: rest, acc, held => by
    rcases mem_foldl_writeFile rest _ held with kept | later
    · rcases List.mem_append.mp kept with old | new
      · exact .inl (List.mem_filter.mp old).1
      · exact .inr (List.mem_singleton.mp new ▸ List.mem_cons_self)
    · exact .inr (List.mem_cons_of_mem x later)

theorem mem_foldl_writeCommit {e : String × String} :
    ∀ (cs : List Commit) (acc : List (String × String)),
      e ∈ cs.foldl (fun acc c => c.files.foldl (fun acc x => acc.filter (·.1 != x.1) ++ [x]) acc) acc →
      e ∈ acc ∨ ∃ c ∈ cs, e ∈ c.files
  | [], _, held => .inl held
  | c :: rest, acc, held => by
    rcases mem_foldl_writeCommit rest _ held with kept | ⟨c', later, written⟩
    · rcases mem_foldl_writeFile c.files acc kept with old | new
      · exact .inl old
      · exact .inr ⟨c, List.mem_cons_self, new⟩
    · exact .inr ⟨c', List.mem_cons_of_mem c later, written⟩

theorem CachedRepo.mem_treeAt {r : CachedRepo} {n : Nat} {e : String × String} (member : e ∈ r.treeAt n) :
    ∃ c ∈ r.commits, e ∈ c.files := by
  rcases mem_foldl_writeCommit _ [] member with none | ⟨c, taken, written⟩
  · cases none
  · exact ⟨c, List.mem_of_mem_take taken, written⟩

theorem keptBy_headFile (r : CachedRepo) : keptBy (pathParts r.dir) r.headFile = true := by
  simp [keptBy, CachedRepo.headFile]

theorem treeText_headFile {r : CachedRepo} (noGit : ∀ c ∈ r.commits, ∀ e ∈ c.files, (pathParts e.1).head? ≠ some ".git")
    (n : Nat) : treeText (pathParts r.dir) (r.treeAt n) r.headFile = none := by
  unfold treeText
  rw [Option.map_eq_none_iff, List.find?_eq_none]
  intro e member same
  simp only [CachedRepo.headFile, beq_iff_eq, List.append_cancel_left_eq] at same
  obtain ⟨c, committed, written⟩ := CachedRepo.mem_treeAt (List.mem_reverse.mp member)
  exact noGit c committed e written (by rw [same]; rfl)

theorem Workspace.Agrees.cached {a b : Workspace} (same : a.Agrees b) (r : CachedRepo) :
    (cacheStep a r).Agrees (cacheStep b r) :=
  (same.checkoutTree r r.last).write _ _

theorem Workspace.Agrees.allCached {a b : Workspace} (same : a.Agrees b) (repos : List CachedRepo) :
    (repos.foldl cacheStep a).Agrees (repos.foldl cacheStep b) := by
  induction repos generalizing a b with
  | nil => exact same
  | cons r rest ih => exact ih (same.cached r)

theorem checkoutTree_foldl {x : CachedRepo} {rest : List CachedRepo} (apart : ∀ y ∈ rest, Apart y x)
    (v : Workspace) (n : Nat) :
    (checkoutTree (rest.foldl cacheStep v) x n).Agrees (rest.foldl cacheStep (checkoutTree v x n)) := by
  induction rest generalizing v with
  | nil => exact Workspace.Agrees.refl _
  | cons y ys ih =>
    have first : (checkoutTree (cacheStep v y) x n).Agrees (cacheStep (checkoutTree v x n) y) := by
      obtain ⟨kept, unwritten⟩ := apart_outside (apart y List.mem_cons_self) (List.prefix_append _ _) n
      exact (checkoutTree_write kept unwritten _ _).trans
        ((checkoutTree_comm (apart y List.mem_cons_self) v y.last n).write _ _)
    exact (ih (fun z member => apart z (List.mem_cons_of_mem y member)) (cacheStep v y)).trans
      (first.allCached ys)

/-- Every repository the cache puts in place is left as it is by checking out its last commit
again. -/
theorem start_settled {repos : List CachedRepo} (layout : CacheLayout repos) (ws : Workspace) :
    ∀ r ∈ repos, (checkoutTree (Discovery.start ws repos).ws r r.last).Agrees (Discovery.start ws repos).ws := by
  rw [Discovery.start_ws]
  obtain ⟨apart, -, noGit⟩ := layout
  induction repos generalizing ws with
  | nil => intro r member; cases member
  | cons x rest ih =>
    intro r member
    obtain ⟨xApart, restApart⟩ := List.pairwise_cons.mp apart
    rcases List.mem_cons.mp member with rfl | later
    · -- the first repository: its checkout passes the later ones and meets its own
      have again : (checkoutTree (cacheStep ws r) r r.last).Agrees (cacheStep ws r) :=
        (checkoutTree_write (keptBy_headFile r) (treeText_headFile (noGit r member) r.last) _ _).trans
          ((checkoutTree_again ws r r.last).write _ _)
      exact (checkoutTree_foldl (fun y inRest => ⟨(xApart y inRest).2, (xApart y inRest).1⟩) _ _).trans
        (again.allCached rest)
    · exact ih (cacheStep ws x) restApart (fun s inRest => noGit s (List.mem_cons_of_mem x inRest)) r later

/-- A discovery state whose repositories are the cached ones, whose files read as `W` does, and
which has every repository at its last commit. -/
structure Settled (repos : List CachedRepo) (W : Workspace) (d : Discovery) : Prop where
  repos_eq : d.repos = repos
  agrees : d.ws.Agrees W
  atLast : ∀ r ∈ repos, d.headOf r = r.last

theorem find?_key_of_nodup {α κ : Type} [BEq κ] [LawfulBEq κ] (key : α → κ) {l : List α}
    (distinct : (l.map key).Nodup) {a : α} (member : a ∈ l) : l.find? (fun b => key b == key a) = some a := by
  obtain ⟨b, hit⟩ := Option.isSome_iff_exists.mp
    (List.find?_isSome.mpr ⟨a, member, by simp⟩ : (l.find? fun b => key b == key a).isSome)
  have named := List.find?_some hit
  simp only [beq_iff_eq] at named
  rw [hit, List.inj_on_of_nodup_map distinct (List.mem_of_find?_eq_some hit) member named]

theorem Settled.start {repos : List CachedRepo} (layout : CacheLayout repos) (ws : Workspace) :
    Settled repos (Discovery.start ws repos).ws (Discovery.start ws repos) := by
  refine ⟨rfl, Workspace.Agrees.refl _, fun r member => ?_⟩
  unfold Discovery.headOf Discovery.start
  dsimp only
  rw [List.find?_map]
  simp [find?_key_of_nodup (fun s : CachedRepo => normalizePath s.dir) layout.distinct member]

/-- Cached repositories laid out apart, in a workspace that has each at its last commit. -/
structure CheckedOut (repos : List CachedRepo) (W : Workspace) : Prop where
  layout : CacheLayout repos
  atLast : ∀ r ∈ repos, (checkoutTree W r r.last).Agrees W

theorem CheckedOut.start {repos : List CachedRepo} (layout : CacheLayout repos) (ws : Workspace) :
    CheckedOut repos (Discovery.start ws repos).ws :=
  ⟨layout, start_settled layout ws⟩

/-- A discovery state after checking out a commit of a repository. -/
def Discovery.checkedOut (d : Discovery) (r : CachedRepo) (n : Nat) : Discovery :=
  ⟨checkoutTree d.ws r n, d.repos, (d.heads.filter fun p => p.1 != normalizePath r.dir) ++ [(normalizePath r.dir, n)]⟩

theorem Discovery.headOf_checkedOut (d : Discovery) (r s : CachedRepo) (n : Nat) :
    (d.checkedOut r n).headOf s = if normalizePath s.dir = normalizePath r.dir then n else d.headOf s := by
  unfold Discovery.headOf Discovery.checkedOut
  dsimp only
  rw [List.find?_append]
  by_cases same : normalizePath s.dir = normalizePath r.dir
  · -- the entries of the repository's name are all replaced by the new one
    rw [find?_filter_of_fails fun e hit => by simp_all]
    simp [same]
  · rw [find?_filter_of_passes fun e hit => by simp_all, if_neg same]
    cases d.heads.find? (fun e => e.1 == normalizePath s.dir) with
    | some e => rfl
    | none => simp [Ne.symm same]

section Checkout

variable {repos : List CachedRepo} {W : Workspace} {d : Discovery}

/-- Checking out, in a settled state, a version that names a repository's last commit leaves
the state settled. -/
theorem checkout_settled (cache : CheckedOut repos W) (settled : Settled repos W d) {r : CachedRepo}
    (member : r ∈ repos) {version : String} (named : version ≠ "")
    (resolves : revisionCommit r r.last version = some r.last) :
    ∃ d', (checkout r version).run d = .ok (none, d') ∧ Settled repos W d' := by
  have nonempty : version.isEmpty = false := by simpa [String.isEmpty_iff] using named
  refine ⟨d.checkedOut r r.last, ?_, ?_⟩
  · simp only [checkout, StateT.run_bind, StateT.run_get, pure_bind, settled.atLast r member, nonempty, resolves]
    rfl
  · refine ⟨settled.repos_eq, (settled.agrees.checkoutTree r r.last).trans (cache.atLast r member),
      fun s inRepos => ?_⟩
    rw [Discovery.headOf_checkedOut]
    split
    · next same => rw [List.inj_on_of_nodup_map cache.layout.distinct inRepos member same]
    · exact settled.atLast s inRepos

/-- Whether the cache serves a git dependency at the commit it has checked out: the dependency
names a version, a cached repository sits in its folder, and the version names that
repository's last commit. -/
def servesDependency (repos : List CachedRepo) (wd url : String) : Bool :=
  url.toList.contains '@' && gitVersion url != "" &&
    match repos.find? (fun r => normalizePath r.dir == normalizePath (gitFolder wd url)) with
    | some r => revisionCommit r r.last (gitVersion url) == some r.last
    | none => false

theorem projectFileIn_agrees {a b : Workspace} (same : a.Agrees b) (dir : String) :
    projectFileIn a dir = projectFileIn b dir := by
  simp only [projectFileIn, same.exists]

/-- A dependency the cache serves is its folder's project file, and leaves the state settled. -/
theorem gitProjectFile_settled (cache : CheckedOut repos W) (settled : Settled repos W d) {wd url : String}
    (serves : servesDependency repos wd url = true) :
    ∃ d', (gitProjectFile wd url).run d = .ok (projectFileIn W (gitFolder wd url), d') ∧ Settled repos W d' := by
  unfold servesDependency at serves
  simp only [Bool.and_eq_true, bne_iff_ne, ne_eq] at serves
  obtain ⟨⟨versioned, named⟩, found⟩ := serves
  cases hit : repos.find? (fun r => normalizePath r.dir == normalizePath (gitFolder wd url)) with
  | none => simp [hit] at found
  | some r =>
    simp only [hit, beq_iff_eq] at found
    obtain ⟨d', checkedOut, settled'⟩ :=
      checkout_settled cache settled (List.mem_of_find?_eq_some hit) named found
    refine ⟨d', ?_, settled'⟩
    simp only [gitProjectFile, versioned, Bool.not_true, Bool.false_eq_true, if_false, StateT.run_bind,
      StateT.run_get, pure_bind, settled.repos_eq, hit, checkedOut]
    change StateT.run (do let s : Discovery ← get; pure (projectFileIn s.ws (gitFolder wd url)) :
      DiscoverM String) d' = _
    simp only [StateT.run_bind, StateT.run_get, pure_bind, StateT.run_pure]
    rw [projectFileIn_agrees settled'.agrees]
    rfl

end Checkout

end Dashwright.Project
