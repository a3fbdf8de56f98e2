import SampleChart.Files
import SampleChart.Proofs.Files.Names
import SampleChart.Proofs.Stages

/-!
# Following paths

`Leads` says without a computation where the pieces of a path lead, with one rule for each thing a
piece can be, and `follow_eq_ok_iff` that following pieces gives just this. What holds of all paths
is proved by induction on the rules.

Files that only grow, in that a directory may get further names and a file other content, let all
paths that led to something lead there again (`Leads.of_grows`). And for reading a path leads to the
same file as for writing, so that a file which can be read can be written to.
-/

namespace SampleChart.Files

/-- Where pieces lead that are followed from a directory through so many symbolic links at most. -/
inductive Leads (files : Files) (access : Access) : Nat → Nat → List (List Char) → Target → Prop
  | here {links number : Nat} : Leads files access links number [] (.found number)
  | stay {links number above : Nat} {entries : List (String × Nat)} {piece : List Char}
      {rest : List (List Char)} {target : Target}
      (isDirectory : files.directory number = .ok (above, entries))
      (blank : piece = [] ∨ piece = ['.']) (further : Leads files access links number rest target) :
      Leads files access links number (piece :: rest) target
  | up {links number above : Nat} {entries : List (String × Nat)} {rest : List (List Char)}
      {target : Target} (isDirectory : files.directory number = .ok (above, entries))
      (further : Leads files access links above rest target) :
      Leads files access links number (['.', '.'] :: rest) target
  | down {links number above inside : Nat} {entries : List (String × Nat)} {piece : List Char}
      {rest : List (List Char)} {target : Target}
      (isDirectory : files.directory number = .ok (above, entries)) (isName : Path.IsName piece)
      (unslashed : access = .write → onlySlashes rest = false)
      (listed : entries.lookup (String.ofList piece) = some inside)
      (notLink : files.link? inside = none)
      (further : Leads files access links inside rest target) :
      Leads files access links number (piece :: rest) target
  | through {links number above inside : Nat} {entries : List (String × Nat)} {piece : List Char}
      {rest : List (List Char)} {path : String} {target : Target}
      (isDirectory : files.directory number = .ok (above, entries)) (isName : Path.IsName piece)
      (unslashed : access = .write → onlySlashes rest = false)
      (listed : entries.lookup (String.ofList piece) = some inside)
      (isLink : files.link? inside = some path)
      (further :
        Leads files access links (files.beginning number path) (pieces path ++ rest) target) :
      Leads files access (links + 1) number (piece :: rest) target
  | free {links number above : Nat} {entries : List (String × Nat)} {piece : List Char}
      (isDirectory : files.directory number = .ok (above, entries)) (isName : Path.IsName piece)
      (absent : entries.lookup (String.ofList piece) = none) :
      Leads files access links number [piece] (.free number (String.ofList piece))

/-- Goes on behind a symbolic link, if there may be another one. -/
def expand (files : Files) (access : Access) :
    Nat → Nat → List (List Char) → Except FileFault Target
  | 0 => fun _ _ => .error .tooManyLinks
  | links + 1 => files.follow access links

variable {files : Files} {access : Access} {links number : Nat} {target : Target}

theorem follow_eq_followWith (files : Files) (access : Access) (links : Nat) :
    files.follow access links = files.followWith access (files.expand access links) := by
  cases links <;> rfl

section Pieces

variable {above : Nat} {entries : List (String × Nat)} {piece : List Char}
  {rest : List (List Char)} {expand : Nat → List (List Char) → Except FileFault Target}

theorem followWith_of_blank (isDirectory : files.directory number = .ok (above, entries))
    (blank : piece = [] ∨ piece = ['.']) :
    files.followWith access expand number (piece :: rest) =
      files.followWith access expand number rest := by
  simp [followWith, isDirectory, blank, bind, Except.bind]

theorem followWith_of_dots (isDirectory : files.directory number = .ok (above, entries)) :
    files.followWith access expand number (['.', '.'] :: rest) =
      files.followWith access expand above rest := by
  simp [followWith, isDirectory, bind, Except.bind]

theorem followWith_of_isName (isDirectory : files.directory number = .ok (above, entries))
    (isName : Path.IsName piece) :
    files.followWith access expand number (piece :: rest) =
      if access = .write ∧ onlySlashes rest = true then .error .isADirectory
      else
        match entries.lookup (String.ofList piece) with
        | none =>
            if rest.isEmpty then .ok (.free number (String.ofList piece)) else .error .notFound
        | some inside =>
            match files.link? inside with
            | some path => expand (files.beginning number path) (pieces path ++ rest)
            | none => files.followWith access expand inside rest := by
  rcases isName with ⟨present, noDot, noDots⟩
  have noStay : ¬(piece.isEmpty || piece = ['.']) = true := by simp [present, noDot]
  rw [followWith, isDirectory]
  simp only [bind, Except.bind, if_neg noStay, if_neg noDots]
  exact if_congr (by simp) rfl rfl

theorem isName_of_not (noStay : ¬(piece = [] ∨ piece = ['.'])) (noDots : piece ≠ ['.', '.']) :
    Path.IsName piece :=
  ⟨fun isEmpty => noStay (Or.inl isEmpty), fun isDot => noStay (Or.inr isDot), noDots⟩

end Pieces

theorem leads_of_followWith {rest : List (List Char)}
    (ofLink : ∀ number rest target, files.expand access links number rest = .ok target →
      ∃ fewer, links = fewer + 1 ∧ files.Leads access fewer number rest target)
    (followed : files.followWith access (files.expand access links) number rest = .ok target) :
    files.Leads access links number rest target := by
  induction rest generalizing number with
  | nil =>
      rcases Except.ok.inj followed with rfl
      exact .here
  | cons piece rest ih =>
      have entered := followed
      rw [followWith, bind_eq_ok_iff] at entered
      rcases entered with ⟨⟨above, entries⟩, isDirectory, _⟩
      by_cases blank : piece = [] ∨ piece = ['.']
      · rw [followWith_of_blank isDirectory blank] at followed
        exact .stay isDirectory blank (ih followed)
      · by_cases dots : piece = ['.', '.']
        · subst dots
          rw [followWith_of_dots isDirectory] at followed
          exact .up isDirectory (ih followed)
        · have isName := isName_of_not blank dots
          rw [followWith_of_isName isDirectory isName] at followed
          split at followed
          next => cases followed
          next slashed =>
            have unslashed : access = .write → onlySlashes rest = false := by
              simpa using slashed
            split at followed
            next absent =>
              split at followed
              next isLast =>
                rcases Except.ok.inj followed with rfl
                rw [List.isEmpty_iff.mp isLast]
                exact .free isDirectory isName absent
              next => cases followed
            next inside listed =>
              split at followed
              next path isLink =>
                rcases ofLink _ _ _ followed with ⟨fewer, rfl, leads⟩
                exact .through isDirectory isName unslashed listed isLink leads
              next notLink => exact .down isDirectory isName unslashed listed notLink (ih followed)

theorem leads_of_follow {rest : List (List Char)}
    (followed : files.follow access links number rest = .ok target) :
    files.Leads access links number rest target := by
  induction links generalizing number rest target with
  | zero =>
      refine leads_of_followWith ?_ followed
      intro number rest target expanded
      cases expanded
  | succ fewer ih =>
      refine leads_of_followWith ?_ followed
      intro number rest target expanded
      exact ⟨fewer, rfl, ih expanded⟩

/-- Following pieces answers with the target that they lead to. -/
theorem follow_eq_ok_iff {rest : List (List Char)} :
    files.follow access links number rest = .ok target ↔
      files.Leads access links number rest target := by
  refine ⟨leads_of_follow, fun leads => ?_⟩
  induction leads with
  | here => rw [follow_eq_followWith, followWith]
  | stay isDirectory blank further ih =>
      rw [follow_eq_followWith] at ih ⊢
      rw [followWith_of_blank isDirectory blank, ih]
  | up isDirectory further ih =>
      rw [follow_eq_followWith] at ih ⊢
      rw [followWith_of_dots isDirectory, ih]
  | down isDirectory isName unslashed listed notLink further ih =>
      rw [follow_eq_followWith] at ih ⊢
      rw [followWith_of_isName isDirectory isName, if_neg (by simpa using unslashed), listed]
      simp only [notLink, ih]
  | through isDirectory isName unslashed listed isLink further ih =>
      rw [follow_eq_followWith, followWith_of_isName isDirectory isName,
        if_neg (by simpa using unslashed), listed]
      simp only [isLink]
      exact ih
  | free isDirectory isName absent =>
      rw [follow_eq_followWith, followWith_of_isName isDirectory isName,
        if_neg (by simp [onlySlashes]), absent]
      rfl

section Purpose

/-- What a path leads to for writing it leads to for reading. -/
theorem Leads.toRead {rest : List (List Char)}
    (leads : files.Leads access links number rest target) :
    files.Leads .read links number rest target := by
  induction leads with
  | here => exact .here
  | stay isDirectory blank _ ih => exact .stay isDirectory blank ih
  | up isDirectory _ ih => exact .up isDirectory ih
  | down isDirectory isName _ listed notLink _ ih =>
      exact .down isDirectory isName (by simp) listed notLink ih
  | through isDirectory isName _ listed isLink _ ih =>
      exact .through isDirectory isName (by simp) listed isLink ih
  | free isDirectory isName absent => exact .free isDirectory isName absent

/-- A path that ends in a slash leads to a directory if it leads anywhere. -/
theorem Leads.exists_directory {rest : List (List Char)}
    (leads : files.Leads access links number rest target) (slash : rest.getLast? = some []) :
    ∃ found inside, target = .found found ∧ files.directory found = .ok inside := by
  have slash_of_cons : ∀ {piece : List Char} {rest : List (List Char)}, piece ≠ [] →
      (piece :: rest).getLast? = some [] → rest.getLast? = some [] := by
    intro piece rest present slash
    cases rest with
    | nil => exact absurd (Option.some.inj slash) present
    | cons next others => rwa [List.getLast?_cons_cons] at slash
  induction leads with
  | here => cases slash
  | @stay _ _ _ _ _ rest _ isDirectory blank further ih =>
      cases rest with
      | nil =>
          cases further
          exact ⟨_, _, rfl, isDirectory⟩
      | cons next others => exact ih (by rwa [List.getLast?_cons_cons] at slash)
  | up isDirectory _ ih => exact ih (slash_of_cons (by simp) slash)
  | down _ isName _ _ _ _ ih => exact ih (slash_of_cons isName.1 slash)
  | through _ isName _ _ _ _ ih =>
      have behind := slash_of_cons isName.1 slash
      exact ih (by rw [List.getLast?_append, behind, Option.some_or])
  | free _ isName => cases slash_of_cons isName.1 slash

theorem getLast?_of_onlySlashes {rest : List (List Char)} (slashes : onlySlashes rest = true) :
    rest.getLast? = some [] := by
  simp only [onlySlashes, Bool.and_eq_true, Bool.not_eq_true', List.isEmpty_eq_false_iff,
    List.all_eq_true, List.isEmpty_iff] at slashes
  rcases slashes with ⟨nonempty, allEmpty⟩
  rw [List.getLast?_eq_getLast_of_ne_nil nonempty, allEmpty _ (List.getLast_mem nonempty)]

/-- What a path leads to for reading it leads to for writing, unless that is a directory. -/
theorem Leads.toWrite {rest : List (List Char)}
    (leads : files.Leads .read links number rest target)
    (noDirectory : ∀ found inside, target = .found found → files.directory found ≠ .ok inside) :
    files.Leads .write links number rest target := by
  have unslashed : ∀ {links number : Nat} {rest : List (List Char)},
      files.Leads .read links number rest target → rest.getLast? ≠ some [] := by
    intro links number rest leads slash
    rcases leads.exists_directory slash with ⟨found, inside, isFound, isDirectory⟩
    exact noDirectory found inside isFound isDirectory
  induction leads with
  | here => exact .here
  | stay isDirectory blank _ ih => exact .stay isDirectory blank (ih noDirectory unslashed)
  | up isDirectory _ ih => exact .up isDirectory (ih noDirectory unslashed)
  | down isDirectory isName _ listed notLink further ih =>
      refine .down isDirectory isName (fun _ => ?_) listed notLink (ih noDirectory unslashed)
      by_contra slashes
      exact unslashed further (getLast?_of_onlySlashes (by simpa using slashes))
  | through isDirectory isName _ listed isLink further ih =>
      refine .through isDirectory isName (fun _ => ?_) listed isLink (ih noDirectory unslashed)
      by_contra slashes
      have slash := getLast?_of_onlySlashes (by simpa using slashes)
      exact unslashed further (by rw [List.getLast?_append, slash, Option.some_or])
  | free isDirectory isName absent => exact .free isDirectory isName absent

end Purpose

section Growth

variable {later : Files} {becomes : Target}

/-- Files come from others by new content and new names, and no link is new. -/
structure Grows (files later : Files) : Prop where
  root_eq : later.root = files.root
  start_eq : later.start = files.start
  link?_eq : ∀ number, later.link? number = files.link? number
  directory_eq : ∀ number above entries, files.directory number = .ok (above, entries) →
    ∃ more, later.directory number = .ok (above, more) ∧
      ∀ name inside, entries.lookup name = some inside → more.lookup name = some inside

/-- What becomes of a target: what has a number keeps it, and a free name may get one. -/
inductive Becomes (later : Files) : Target → Target → Prop
  | found {number : Nat} : Becomes later (.found number) (.found number)
  | entered {directory above number : Nat} {name : String} {entries : List (String × Nat)}
      (isDirectory : later.directory directory = .ok (above, entries))
      (listed : entries.lookup name = some number) (notLink : later.link? number = none) :
      Becomes later (.free directory name) (.found number)

theorem Grows.beginning_eq (grows : files.Grows later) (number : Nat) (path : String) :
    later.beginning number path = files.beginning number path := by
  rw [beginning, beginning, grows.root_eq]

/-- In files that have grown a path leads to what became of its target. -/
theorem Leads.of_grows {rest : List (List Char)} (grows : files.Grows later)
    (leads : files.Leads access links number rest target) (became : later.Becomes target becomes) :
    later.Leads access links number rest becomes := by
  induction leads with
  | here =>
      cases became
      exact .here
  | stay isDirectory blank _ ih =>
      rcases grows.directory_eq _ _ _ isDirectory with ⟨more, stillDirectory, _⟩
      exact .stay stillDirectory blank (ih became)
  | up isDirectory _ ih =>
      rcases grows.directory_eq _ _ _ isDirectory with ⟨more, stillDirectory, _⟩
      exact .up stillDirectory (ih became)
  | down isDirectory isName unslashed listed notLink _ ih =>
      rcases grows.directory_eq _ _ _ isDirectory with ⟨more, stillDirectory, kept⟩
      exact .down stillDirectory isName unslashed (kept _ _ listed)
        ((grows.link?_eq _).trans notLink) (ih became)
  | through isDirectory isName unslashed listed isLink _ ih =>
      rcases grows.directory_eq _ _ _ isDirectory with ⟨more, stillDirectory, kept⟩
      rw [← grows.beginning_eq] at ih
      exact .through stillDirectory isName unslashed (kept _ _ listed)
        ((grows.link?_eq _).trans isLink) (ih became)
  | free isDirectory isName absent =>
      cases became with
      | entered nowDirectory listed notLink =>
          exact .down nowDirectory isName (by simp [onlySlashes]) listed notLink .here

end Growth

end SampleChart.Files
