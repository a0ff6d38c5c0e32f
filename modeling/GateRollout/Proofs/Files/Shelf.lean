import GateRollout.Proofs.Journal
import GateRollout.Yaml.Reading

/-!
# Files side by side

Some paths that lead to files of one directory, or to nothing there yet, go on to do so whatever is added to
the files and whichever of them takes another's path.  What is added to a file is read behind what it held,
and where a file was moved away there is none.
-/

namespace GateRollout

namespace FileTree

variable {t t' : FileTree} {place dir : List String} {content more : List UInt8} {p q : String}

/-! ## Where paths lead -/

/-- A tree has the working directory of another, and all its directories. -/
structure Keeps (t t' : FileTree) : Prop where
  workingDirectory : t'.workingDirectory = t.workingDirectory
  directories : ∀ at_, t.find? at_ = some .directory → t'.find? at_ = some .directory

theorem Keeps.follow (h : t.Keeps t') {start cs : List String} (hfollow : t.follow start cs = .ok place) :
    t'.follow start cs = .ok place := by
  induction cs generalizing start with
  | nil => exact hfollow
  | cons c cs ih =>
    rw [FileTree.follow] at hfollow ⊢
    cases hentry : t.find? start with
    | none => simp [hentry] at hfollow
    | some e =>
      cases e with
      | file _ => simp [hentry] at hfollow
      | directory =>
        simp only [hentry] at hfollow
        simp only [h.directories start hentry]
        split at hfollow
        · case isTrue hup => rw [if_pos hup, ih hfollow]
        · case isFalse hup => rw [if_neg hup, ih hfollow]

/-- A path that ends in a name leads where its components lead. -/
theorem resolve_eq_ok (hend : p.endsWith "/" = false) : t.resolve p = .ok place ↔
    p.contains (Char.ofNat 0) = false ∧ p.isEmpty = false ∧
      t.follow (if Path.isAbsolute p then [] else t.workingDirectory) (Path.components p) = .ok place := by
  rw [resolve]
  cases p.contains (Char.ofNat 0) with
  | true => exact ⟨nofun, nofun⟩
  | false =>
    cases p.isEmpty with
    | true => exact ⟨nofun, nofun⟩
    | false =>
      change (t.follow _ _ >>= _) = _ ↔ _
      rw [hend]
      cases t.follow (if Path.isAbsolute p then [] else t.workingDirectory) (Path.components p) with
      | error f => exact ⟨nofun, nofun⟩
      | ok place' => simp [bind, Except.bind, pure, Except.pure]

theorem Keeps.resolve (h : t.Keeps t') (hend : p.endsWith "/" = false) (hresolve : t.resolve p = .ok place) :
    t'.resolve p = .ok place := by
  rw [resolve_eq_ok hend] at hresolve ⊢
  rw [h.workingDirectory]
  exact ⟨hresolve.1, hresolve.2.1, h.follow hresolve.2.2⟩

theorem find?_put (e : FileEntry) (h : place ≠ []) (at_ : List String) :
    FileTree.find? (t.put place e) at_ = if at_ = place then some e else t.find? at_ := by
  rw [FileTree.find?, FileTree.find?, put, List.find?_append, List.find?_filter]
  by_cases hat : at_ = place
  · subst hat
    have hnone : t.entries.find? (fun a => decide ((a.1 != at_) = true ∧ (a.1 == at_) = true)) = none := by
      simp
    rw [hnone]
    simp [h]
  · have hsame : (fun a : List String × FileEntry => decide ((a.1 != place) = true ∧ (a.1 == at_) = true)) =
        fun a => a.1 == at_ := by
      funext a
      by_cases ha : a.1 = at_
      · simp [ha, hat]
      · simp [ha]
    rw [hsame]
    simp [hat, Ne.symm hat]

/-! ## Shelves -/

/-- Some paths lead to files of a directory, or to nothing there yet: each to a name of its own, below which
there is nothing. -/
structure Shelf (t : FileTree) (dir : List String) (name : String → String) (paths : List String) : Prop where
  directory : t.find? dir = some .directory
  resolves : ∀ p ∈ paths, t.resolve p = .ok (dir ++ [name p])
  ends : ∀ p ∈ paths, p.endsWith "/" = false
  notDirectory : ∀ p ∈ paths, t.find? (dir ++ [name p]) ≠ some .directory
  nothingBelow : ∀ p ∈ paths, ∀ e ∈ t.entries, dir ++ [name p] <+: e.1 → e.1 = dir ++ [name p]
  injective : ∀ p ∈ paths, ∀ q ∈ paths, dir ++ [name p] = dir ++ [name q] → p = q

variable {name : String → String} {paths : List String}

theorem ne_nil_of_append {x : String} : dir ++ [x] ≠ [] := by simp

namespace Shelf

theorem lookup (h : t.Shelf dir name paths) (hp : p ∈ paths) :
    t.lookup p = match t.find? (dir ++ [name p]) with
      | some e => .ok e
      | none => .error .notFound := by
  rw [FileTree.lookup, h.resolves p hp]
  simp only [bind, Except.bind]
  cases t.find? (dir ++ [name p]) <;> rfl

theorem contains (h : t.Shelf dir name paths) (hp : p ∈ paths) :
    t.contains p = (t.find? (dir ++ [name p])).isSome := by
  rw [FileTree.contains, h.lookup hp]
  cases t.find? (dir ++ [name p]) <;> rfl

theorem read_of_entry (h : t.Shelf dir name paths) (hp : p ∈ paths)
    (hentry : t.find? (dir ++ [name p]) = some (.file content)) : t.read p = .ok content := by
  rw [read, h.lookup hp, hentry]
  rfl

/-- A file that is read is where its path leads. -/
theorem entry_of_read (h : t.Shelf dir name paths) (hp : p ∈ paths) (hread : t.read p = .ok content) :
    t.find? (dir ++ [name p]) = some (.file content) := by
  rw [read, h.lookup hp] at hread
  cases hentry : t.find? (dir ++ [name p]) with
  | none => simp [hentry, bind, Except.bind] at hread
  | some e =>
    cases e with
    | directory => exact absurd hentry (h.notDirectory p hp)
    | file content' =>
      rw [hentry] at hread
      obtain rfl : content' = content := Except.ok.inj hread
      rfl

theorem of_keeps (h : t.Shelf dir name paths) (hkeeps : t.Keeps t')
    (hentry : ∀ p ∈ paths, t'.find? (dir ++ [name p]) ≠ some .directory)
    (hbelow : ∀ p ∈ paths, ∀ e ∈ t'.entries, dir ++ [name p] <+: e.1 → e.1 = dir ++ [name p]) :
    t'.Shelf dir name paths where
  directory := hkeeps.directories dir h.directory
  resolves p hp := hkeeps.resolve (h.ends p hp) (h.resolves p hp)
  ends := h.ends
  notDirectory := hentry
  nothingBelow := hbelow
  injective := h.injective

theorem eq_of_prefix {x y : String} (h : dir ++ [x] <+: dir ++ [y]) : dir ++ [y] = dir ++ [x] :=
  (h.eq_of_length (by simp)).symm

/-- A file takes its place on a shelf. -/
theorem put (h : t.Shelf dir name paths) (hp : p ∈ paths) (content : List UInt8) :
    (t.put (dir ++ [name p]) (.file content)).Shelf dir name paths := by
  have hne : dir ++ [name p] ≠ [] := ne_nil_of_append
  have hentry := fun at_ => find?_put (t := t) (.file content) hne at_
  refine h.of_keeps ⟨rfl, fun at_ hat => ?_⟩ (fun r hr => ?_) fun r hr e he hprefix => ?_
  · rw [hentry, if_neg]
    · exact hat
    · rintro rfl
      exact h.notDirectory p hp hat
  · rw [hentry]
    split
    · nofun
    · exact h.notDirectory r hr
  · rcases List.mem_append.1 he with he | he
    · exact h.nothingBelow r hr e (List.mem_of_mem_filter he) hprefix
    · obtain rfl := List.mem_singleton.1 he
      exact eq_of_prefix hprefix

/-- What is added to a file is read behind what it held, and a file that is not there is made. -/
theorem append (h : t.Shelf dir name paths) (hp : p ∈ paths) (more : List UInt8) :
    ∃ t', t.append p more = .ok t' ∧ t'.Shelf dir name paths ∧
      t'.read p = .ok (match t.find? (dir ++ [name p]) with
        | some (.file content) => content ++ more
        | _ => more) := by
  suffices hput : t.append p more = .ok (t.put (dir ++ [name p]) (.file (match t.find? (dir ++ [name p]) with
      | some (.file content) => content ++ more
      | _ => more))) from
    ⟨_, hput, h.put hp _, (h.put hp _).read_of_entry hp (by rw [find?_put _ ne_nil_of_append, if_pos rfl])⟩
  rw [FileTree.append, h.resolves p hp]
  simp only [bind, Except.bind]
  cases hentry : t.find? (dir ++ [name p]) with
  | none =>
    rw [h.ends p hp, List.dropLast_concat]
    simp only [h.directory]
    rfl
  | some e =>
    cases e with
    | directory => exact absurd hentry (h.notDirectory p hp)
    | file content => rfl

/-! ## Moving -/

theorem movedPlace_of_mem (h : t.Shelf dir name paths) (hp : p ∈ paths) (target : List String)
    {e : List String × FileEntry} (he : e ∈ t.entries) :
    movedPlace (dir ++ [name p]) target e.1 = if e.1 = dir ++ [name p] then target else e.1 := by
  rw [movedPlace]
  by_cases heq : e.1 = dir ++ [name p]
  · rw [if_pos heq, heq]
    simp
  · rw [if_neg heq, if_neg]
    exact fun hprefix => heq (h.nothingBelow p hp e he (List.isPrefixOf_iff_prefix.1 hprefix))

/-- A tree after a file took another place. -/
def moved (t : FileTree) (source target : List String) : FileTree :=
  { t with entries := (t.entries.filter fun e => e.1 != target).map fun e => (movedPlace source target e.1, e.2) }

/-- An entry lies at a place after a move if it is the one that was moved there, or it lay there and is neither
moved away nor replaced. -/
theorem lies_moved {source target : List String} (hne : source ≠ target) (x at_ : List String) :
    decide ((x != target) = true ∧ ((if x = source then target else x) == at_) = true) =
      if at_ = target then x == source else at_ != source && x == at_ := by
  by_cases hsource : x = source
  · subst hsource
    by_cases hat : at_ = target
    · simp [hat, hne]
    · by_cases hx : x = at_ <;> simp [hat, hx, Ne.symm hat]
  · by_cases hat : at_ = target
    · simp [hat, hsource]
    · by_cases hx : x = at_
      · subst hx
        simp [hat, hsource]
      · simp [hsource, hx, hat]

/-- What lies where, after a file of a shelf took another place. -/
theorem entry_moved (h : t.Shelf dir name paths) (hp : p ∈ paths) {target : List String}
    (hne : dir ++ [name p] ≠ target) {at_ : List String} (hat : at_ ≠ []) :
    (moved t (dir ++ [name p]) target).find? at_ =
      if at_ = target then t.find? (dir ++ [name p])
      else if at_ = dir ++ [name p] then none else t.find? at_ := by
  have hfind : ∀ {a b : List String × FileEntry → Bool}, (∀ e ∈ t.entries, a e = b e) →
      t.entries.find? a = t.entries.find? b := fun hab => by
    rw [← List.head?_filter, List.filter_congr hab, List.head?_filter]
  have hempty : at_.isEmpty = false := List.isEmpty_eq_false_iff.2 hat
  have hempty' : (dir ++ [name p]).isEmpty = false := List.isEmpty_eq_false_iff.2 ne_nil_of_append
  have hlies := hfind fun e he => (congrArg (fun x => decide ((e.1 != target) = true ∧ (x == at_) = true))
    (h.movedPlace_of_mem hp target he)).trans (lies_moved hne e.1 at_)
  have hentry : (moved t (dir ++ [name p]) target).find? at_ =
      (t.entries.find? fun e => if at_ = target then e.1 == dir ++ [name p]
        else at_ != dir ++ [name p] && e.1 == at_).map (·.2) := by
    rw [FileTree.find?, hempty, moved, List.find?_map, List.find?_filter, ← hlies]
    exact Option.map_map ..
  rw [hentry, FileTree.find?, FileTree.find?, hempty, hempty']
  by_cases htarget : at_ = target
  · simp [htarget]
  · by_cases hsource : at_ = dir ++ [name p]
    · subst hsource
      simp [hne]
    · have hsource' : (at_ != dir ++ [name p]) = true := bne_iff_ne.2 hsource
      simp [htarget, hsource, hsource']

/-- What has taken another's path is no more where it was. -/
theorem move (h : t.Shelf dir name paths) (hp : p ∈ paths) (hq : q ∈ paths) (hne : p ≠ q)
    (hentry : (t.find? (dir ++ [name p])).isSome = true) :
    ∃ t', t.move p q = .ok t' ∧ t'.Shelf dir name paths ∧ t'.find? (dir ++ [name p]) = none := by
  have hplace : dir ++ [name p] ≠ dir ++ [name q] := fun heq => hne (h.injective p hp q hq heq)
  have hmoved := fun at_ (hat : at_ ≠ []) => h.entry_moved hp hplace hat
  refine ⟨moved t (dir ++ [name p]) (dir ++ [name q]), ?_,
    h.of_keeps ⟨rfl, fun at_ hat => ?_⟩ (fun r hr => ?_) fun r hr e he hprefix => ?_, ?_⟩
  · have hsome : (t.find? (dir ++ [name p])).isNone = false := by
      rw [Option.isNone_eq_false_iff, hentry]
    have hfile : (t.find? (dir ++ [name q]) == some .directory) = false :=
      beq_eq_false_iff_ne.2 (h.notDirectory q hq)
    rw [FileTree.move, h.resolves p hp, h.resolves q hq]
    simp only [bind, Except.bind, hsome, hfile, List.dropLast_concat, h.directory]
    rfl
  · by_cases hnil : at_ = []
    · rw [hnil]
      rfl
    · rw [hmoved at_ hnil, if_neg, if_neg]
      · exact hat
      · rintro rfl
        exact h.notDirectory p hp hat
      · rintro rfl
        exact h.notDirectory q hq hat
  · rw [hmoved _ ne_nil_of_append]
    split
    · exact h.notDirectory p hp
    · split
      · nofun
      · exact h.notDirectory r hr
  · obtain ⟨e', he', rfl⟩ := List.mem_map.1 he
    have hmem := List.mem_of_mem_filter he'
    rw [h.movedPlace_of_mem hp _ hmem] at hprefix ⊢
    split
    · case isTrue heq => exact eq_of_prefix (by rwa [if_pos heq] at hprefix)
    · case isFalse heq => exact h.nothingBelow r hr e' hmem (by rwa [if_neg heq] at hprefix)
  · rw [hmoved _ ne_nil_of_append, if_neg hplace, if_pos rfl]

end Shelf

end FileTree

/-- A host with one file under every path, whose bytes are all its state.  What is moved is gone. -/
def Host.oneFile : Host (List UInt8) where
  environment := []
  homeDirectory := "/"
  workingDirectory := "/"
  hasFile _ := pure true
  readFile _ := Action.world
  appendFile _ text := Action.modifyWorld (· ++ text.toUTF8.toList)
  move _ _ := Action.modifyWorld fun _ => []
  makeDirectories _ := pure ()
  clock := pure (.int 0)
  now := pure ⟨⟨2024, 1, 2⟩, 3, 4, 5, 0, some 0⟩
  readDocument := Yaml.reader

end GateRollout
