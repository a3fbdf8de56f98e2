import SampleChart.Proofs.Files.Following

/-!
# Writing files

A file that is written is put where its path leads (`exists_put_of_write`): it gets new content
under the number that it has, or a number and a name that were free. Either way the files only grow,
so that every path to a file leads there again, and the one that was written to leads to what was
written. What a path cannot come by is a way through the new file: `Leads.of_put` takes each way to
another file back to the files before.

So all that matters is whether two paths lead to one file (`LeadTogether`). What is read from a path
changes if it leads together with the one that is written to, and only then.
-/

namespace SampleChart.Files

variable {files written : Files} {content : ByteArray} {target : Target} {number : Nat}

theorem directory_eq_ok_iff {above : Nat} {entries : List (String × Nat)} :
    files.directory number = .ok (above, entries) ↔
      files.node? number = some (.directory above entries) := by
  rw [directory]
  rcases files.node? number with _ | _ | _ | _ <;> simp

theorem content?_eq_some_iff :
    files.content? number = some content ↔ files.node? number = some (.file content) := by
  rw [content?]
  rcases files.node? number with _ | _ | _ | _ <;> simp

theorem content?_of_directory {inside : Nat × List (String × Nat)}
    (isDirectory : files.directory number = .ok inside) : files.content? number = none := by
  rw [content?, directory_eq_ok_iff.mp isDirectory]

/-- A target that something can be put at: a file, or a name that is free in a directory. -/
inductive Writable (files : Files) : Target → Prop
  | file {number : Nat} {old : ByteArray} (isFile : files.content? number = some old) :
      Writable files (.found number)
  | free {directory above : Nat} {name : String} {entries : List (String × Nat)}
      (isDirectory : files.directory directory = .ok (above, entries))
      (absent : entries.lookup name = none) : Writable files (.free directory name)

/-- The number that is put at a target keeps or gets. -/
def numberAt (files : Files) : Target → Nat
  | .found number => number
  | .free _ _ => files.nodes.length

theorem node?_put_found {old : ByteArray} (isFile : files.content? number = some old)
    (content : ByteArray) (other : Nat) :
    (files.put content (.found number)).node? other =
      if other = number then some (.file content) else files.node? other := by
  have inside : number < files.nodes.length := by
    rw [content?_eq_some_iff, node?, List.getElem?_eq_some_iff] at isFile
    exact isFile.1
  rw [node?, put, List.getElem?_set]
  by_cases here : other = number
  · rw [if_pos here.symm, if_pos (here ▸ inside), if_pos here]
  · rw [if_neg (Ne.symm here), if_neg here, node?]

theorem node?_put_free (files : Files) (content : ByteArray) (directory : Nat) (name : String)
    (other : Nat) :
    (files.put content (.free directory name)).node? other =
      if other = files.nodes.length then some (.file content)
      else (files.node? other).map fun node =>
        if directory = other then node.enter name files.nodes.length else node := by
  rw [node?, put, List.getElem?_append, List.length_modify, List.getElem?_modify, node?]
  by_cases old : other < files.nodes.length
  · rw [if_pos old, if_neg (Nat.ne_of_lt old)]
    rfl
  · rw [if_neg old]
    by_cases new : other = files.nodes.length
    · simp [new]
    · have beyond : files.nodes.length < other := by omega
      have behindNew : [Node.file content].length ≤ other - files.nodes.length :=
        Nat.sub_pos_of_lt beyond
      rw [if_neg new, List.getElem?_eq_none behindNew, List.getElem?_eq_none (Nat.le_of_lt beyond),
        Option.map_none]

/-- What is put at a target is a file, and the content of no other file changes. -/
theorem content?_put (writable : files.Writable target) (content : ByteArray) (other : Nat) :
    (files.put content target).content? other =
      if other = files.numberAt target then some content else files.content? other := by
  cases writable with
  | file isFile =>
      rw [content?, node?_put_found isFile, numberAt]
      split_ifs <;> rfl
  | @free directory _ name _ isDirectory absent =>
      rw [content?, node?_put_free, numberAt, content?]
      split_ifs with new into
      · rfl
      · rcases files.node? other with _ | _ | _ | _ <;> rfl
      · cases files.node? other <;> rfl

/-- No link comes in or goes away. -/
theorem link?_put (writable : files.Writable target) (content : ByteArray) (other : Nat) :
    (files.put content target).link? other = files.link? other := by
  cases writable with
  | file isFile =>
      rw [link?, node?_put_found isFile, link?]
      split_ifs with here
      · rw [here, content?_eq_some_iff.mp isFile]
      · rfl
  | @free directory _ name _ isDirectory absent =>
      rw [link?, node?_put_free, link?]
      split_ifs with new into
      · rw [new, node?, List.getElem?_eq_none (Nat.le_refl _)]
      · rcases files.node? other with _ | _ | _ | _ <;> rfl
      · cases files.node? other <;> rfl

/-- What is in a directory when something was put at a target. -/
def entriesAfter (files : Files) (number : Nat) (entries : List (String × Nat)) :
    Target → List (String × Nat)
  | .found _ => entries
  | .free directory name =>
      if directory = number then (name, files.nodes.length) :: entries else entries

/-- Directories stay, with a further name in the one that something new was put into. -/
theorem directory_put_eq_ok_iff (writable : files.Writable target) (content : ByteArray)
    {above : Nat} {more : List (String × Nat)} :
    (files.put content target).directory number = .ok (above, more) ↔
      ∃ entries, files.directory number = .ok (above, entries) ∧
        files.entriesAfter number entries target = more := by
  simp only [directory_eq_ok_iff]
  cases writable with
  | @file place _ isFile =>
      rw [node?_put_found isFile]
      have stored := content?_eq_some_iff.mp isFile
      split_ifs with here
      · simp [here, stored]
      · simp [entriesAfter]
  | @free directory _ name _ isDirectory absent =>
      rw [node?_put_free]
      split_ifs with new into
      · have unused : files.node? number = none := by
          rw [new, node?, List.getElem?_eq_none (Nat.le_refl _)]
        simp [unused]
      · rcases files.node? number with _ | _ | _ | _ <;> simp [into, entriesAfter, Node.enter]
      · rcases files.node? number with _ | _ | _ | _ <;> simp [into, entriesAfter]

theorem grows_put (writable : files.Writable target) (content : ByteArray) :
    files.Grows (files.put content target) where
  root_eq := by cases target <;> rfl
  start_eq := by cases target <;> rfl
  link?_eq := link?_put writable content
  directory_eq := by
    intro number above entries isDirectory
    refine ⟨_, (directory_put_eq_ok_iff writable content).mpr ⟨entries, isDirectory, rfl⟩, ?_⟩
    intro name inside listed
    cases writable with
    | file => exact listed
    | @free directory _ freeName _ isDirectory' absent =>
        rw [entriesAfter]
        split_ifs with into
        · subst into
          rcases Prod.mk.inj (Except.ok.inj (isDirectory'.symm.trans isDirectory)) with ⟨_, rfl⟩
          have other : (name == freeName) = false := by
            rw [beq_eq_false_iff_ne]
            rintro rfl
            rw [absent] at listed
            cases listed
          rw [List.lookup_cons, other]
          exact listed
        · exact listed

/-- What was put at a target has its number from then on. -/
theorem becomes_put (writable : files.Writable target) (content : ByteArray) :
    (files.put content target).Becomes target (.found (files.numberAt target)) := by
  cases target with
  | found number => exact .found
  | free directory name =>
      have put_link := link?_put writable content files.nodes.length
      cases writable with
      | free isDirectory absent =>
          refine .entered ((directory_put_eq_ok_iff (.free isDirectory absent) content).mpr
            ⟨_, isDirectory, rfl⟩) ?_ ?_
          · rw [entriesAfter, if_pos rfl, List.lookup_cons_self]
            rfl
          · rw [numberAt, put_link, link?, node?, List.getElem?_eq_none (Nat.le_refl _)]

/-- Nothing leads on from a file. -/
theorem Leads.eq_of_file {access : Access} {links : Nat} {rest : List (List Char)}
    (leads : files.Leads access links number rest target)
    (isFile : files.content? number = some content) : target = .found number := by
  cases leads with
  | here => rfl
  | stay isDirectory => simp [content?_of_directory isDirectory] at isFile
  | up isDirectory => simp [content?_of_directory isDirectory] at isFile
  | down isDirectory => simp [content?_of_directory isDirectory] at isFile
  | through isDirectory => simp [content?_of_directory isDirectory] at isFile
  | free isDirectory => simp [content?_of_directory isDirectory] at isFile

/-- A name in a directory after something was put at a target was there before, or is its own. -/
theorem lookup_entriesAfter {entries : List (String × Nat)} {name : String} {inside : Nat}
    (listed : (files.entriesAfter number entries target).lookup name = some inside) :
    entries.lookup name = some inside ∨ inside = files.numberAt target := by
  cases target with
  | found => exact Or.inl listed
  | free directory freeName =>
      rw [entriesAfter] at listed
      split_ifs at listed
      · rw [List.lookup_cons] at listed
        split at listed
        next => exact Or.inr (Option.some.inj listed).symm
        next => exact Or.inl listed
      · exact Or.inl listed

/-- What a path leads to after something else was put at a target it led to before. -/
theorem Leads.of_put {access : Access} {links : Nat} {rest : List (List Char)}
    (writable : files.Writable target) {found : Nat}
    (leads : (files.put content target).Leads access links number rest (.found found))
    (other : found ≠ files.numberAt target) :
    files.Leads access links number rest (.found found) := by
  have isFile : (files.put content target).content? (files.numberAt target) = some content := by
    rw [content?_put writable, if_pos rfl]
  generalize isFound : Target.found found = result at leads
  induction leads with
  | here => exact .here
  | stay isDirectory blank _ ih =>
      rcases (directory_put_eq_ok_iff writable content).mp isDirectory with ⟨_, was, _⟩
      exact .stay was blank (ih isFound)
  | up isDirectory _ ih =>
      rcases (directory_put_eq_ok_iff writable content).mp isDirectory with ⟨_, was, _⟩
      exact .up was (ih isFound)
  | down isDirectory isName unslashed listed notLink further ih =>
      rcases (directory_put_eq_ok_iff writable content).mp isDirectory with ⟨_, was, rfl⟩
      rw [link?_put writable] at notLink
      rcases lookup_entriesAfter listed with wasListed | rfl
      · exact .down was isName unslashed wasListed notLink (ih isFound)
      · have ends := further.eq_of_file isFile
        rw [← isFound] at ends
        exact absurd (Target.found.inj ends) other
  | through isDirectory isName unslashed listed isLink _ ih =>
      rcases (directory_put_eq_ok_iff writable content).mp isDirectory with ⟨_, was, rfl⟩
      rcases lookup_entriesAfter listed with wasListed | rfl
      · rw [link?_put writable] at isLink
        rw [(grows_put writable content).beginning_eq] at ih
        exact .through was isName unslashed wasListed isLink (ih isFound)
      · rw [content?_eq_some_iff] at isFile
        simp [link?, isFile] at isLink
  | free => cases isFound

/-- A name that a path leads to and that is free is one in a directory. -/
theorem Leads.exists_directory_of_free {access : Access} {links directory : Nat}
    {rest : List (List Char)} {name : String}
    (leads : files.Leads access links number rest (.free directory name)) :
    ∃ above entries, files.directory directory = .ok (above, entries) ∧
      entries.lookup name = none := by
  generalize isFree : Target.free directory name = result at leads
  induction leads with
  | here => cases isFree
  | stay _ _ _ ih => exact ih isFree
  | up _ _ ih => exact ih isFree
  | down _ _ _ _ _ _ ih => exact ih isFree
  | through _ _ _ _ _ _ ih => exact ih isFree
  | free isDirectory _ absent =>
      rcases Target.free.inj isFree with ⟨rfl, rfl⟩
      exact ⟨_, _, isDirectory, absent⟩

section Paths

variable {path other : String}

theorem resolve_eq_ok_iff {access : Access} :
    files.resolve access path = .ok target ↔
      path.isEmpty = false ∧
        files.Leads access linkLimit (files.beginning files.start path) (pieces path) target := by
  rw [resolve, ← follow_eq_ok_iff]
  cases path.isEmpty <;> simp

theorem find_eq_ok_iff :
    files.find path = .ok number ↔ files.resolve .read path = .ok (.found number) := by
  rw [find, bind_eq_ok_iff]
  constructor
  · rintro ⟨_ | _, resolved, same⟩
    · rcases Except.ok.inj same with rfl
      exact resolved
    · cases same
  · intro resolved
    exact ⟨_, resolved, rfl⟩

theorem read_eq_ok_iff :
    files.read path = .ok content ↔
      ∃ number, files.find path = .ok number ∧ files.content? number = some content := by
  rw [read, bind_eq_ok_iff]
  refine exists_congr fun number => and_congr_right fun _ => ?_
  rw [content?]
  rcases files.node? number with _ | _ | _ | _ <;> simp

/-- In files that have grown a path leads to what became of its target. -/
theorem resolve_of_grows {access : Access} {later : Files} {becomes : Target}
    (grows : files.Grows later) (resolved : files.resolve access path = .ok target)
    (became : later.Becomes target becomes) : later.resolve access path = .ok becomes := by
  rw [resolve_eq_ok_iff] at resolved ⊢
  rw [grows.beginning_eq, grows.start_eq]
  exact ⟨resolved.1, resolved.2.of_grows grows became⟩

/-- What was found is found again. -/
theorem find_put (writable : files.Writable target) (content : ByteArray)
    (found : files.find other = .ok number) :
    (files.put content target).find other = .ok number := by
  rw [find_eq_ok_iff] at found ⊢
  exact resolve_of_grows (grows_put writable content) found .found

theorem find_of_find_put (writable : files.Writable target)
    (found : (files.put content target).find other = .ok number)
    (apart : number ≠ files.numberAt target) : files.find other = .ok number := by
  have grows := grows_put writable content
  rw [find_eq_ok_iff, resolve_eq_ok_iff, grows.beginning_eq, grows.start_eq] at found
  rw [find_eq_ok_iff, resolve_eq_ok_iff]
  exact ⟨found.1, found.2.of_put writable apart⟩

/-- Writing puts a file where the path leads. -/
theorem exists_put_of_write (success : files.write path content = .ok written) :
    ∃ target, files.resolve .write path = .ok target ∧ files.Writable target ∧
      written = files.put content target := by
  rw [write, bind_eq_ok_iff] at success
  rcases success with ⟨number | ⟨directory, name⟩, resolved, success⟩
  · dsimp only at success
    split at success
    next old isFile =>
      exact ⟨_, resolved, .file (content?_eq_some_iff.mpr isFile), (Except.ok.inj success).symm⟩
    next => cases success
    next => cases success
  · rcases (resolve_eq_ok_iff.mp resolved).2.exists_directory_of_free with
      ⟨above, entries, isDirectory, absent⟩
    exact ⟨_, resolved, .free isDirectory absent, (Except.ok.inj success).symm⟩

/-- The path that was written to leads to what was put there. -/
theorem find_of_write (resolved : files.resolve .write path = .ok target)
    (writable : files.Writable target) (content : ByteArray) :
    (files.put content target).find path = .ok (files.numberAt target) := by
  rw [resolve_eq_ok_iff] at resolved
  have forReading : files.resolve .read path = .ok target :=
    resolve_eq_ok_iff.mpr ⟨resolved.1, resolved.2.toRead⟩
  rw [find_eq_ok_iff]
  exact resolve_of_grows (grows_put writable content) forReading (becomes_put writable content)

/-- Whether two paths lead to one and the same thing, in whatever way. -/
def LeadTogether (files : Files) (left right : String) : Prop :=
  ∃ number, files.find left = .ok number ∧ files.find right = .ok number

/-- Whatever is read from a path that leads elsewhere than one that is written to was read from it
before, and the other way around. -/
theorem read_iff_of_write (success : files.write path content = .ok written)
    (apart : ¬written.LeadTogether other path) {found : ByteArray} :
    written.read other = .ok found ↔ files.read other = .ok found := by
  rcases exists_put_of_write success with ⟨target, resolved, writable, rfl⟩
  have apart_of : ∀ number, (files.put content target).find other = .ok number →
      number ≠ files.numberAt target := by
    rintro number leads rfl
    exact apart ⟨_, leads, find_of_write resolved writable content⟩
  simp only [read_eq_ok_iff]
  refine exists_congr fun number => ?_
  constructor
  · rintro ⟨leads, isFile⟩
    have elsewhere := apart_of number leads
    rw [content?_put writable, if_neg elsewhere] at isFile
    exact ⟨find_of_find_put writable leads elsewhere, isFile⟩
  · rintro ⟨leads, isFile⟩
    have still := find_put writable content leads
    refine ⟨still, ?_⟩
    rw [content?_put writable, if_neg (apart_of number still), isFile]

/-- What is written to a path is read from every path that leads to the same file. -/
theorem read_of_write_together (together : files.LeadTogether other path)
    (success : files.write path content = .ok written) : written.read other = .ok content := by
  rcases exists_put_of_write success with ⟨target, resolved, writable, rfl⟩
  rcases together with ⟨number, otherLeads, leads⟩
  have isTarget := find_of_write resolved writable content
  rw [find_put writable content leads] at isTarget
  rw [read_eq_ok_iff]
  refine ⟨number, find_put writable content otherLeads, ?_⟩
  rw [content?_put writable, if_pos (Except.ok.inj isTarget)]

/-- Paths that lead to one file once something was written lead to one file before, if one of them
led to a file then. -/
theorem leadTogether_of_write (success : files.write path content = .ok written) {found : ByteArray}
    (isFile : files.read other = .ok found) (together : written.LeadTogether other path) :
    files.LeadTogether other path := by
  rcases exists_put_of_write success with ⟨target, resolved, writable, rfl⟩
  rcases together with ⟨number, otherLeads, leads⟩
  rw [find_of_write resolved writable content] at leads
  rcases Except.ok.inj leads with rfl
  rcases read_eq_ok_iff.mp isFile with ⟨old, was, stored⟩
  have same := Except.ok.inj (otherLeads.symm.trans (find_put writable content was))
  cases target with
  | found number =>
      rcases same with rfl
      rw [resolve_eq_ok_iff] at resolved
      refine ⟨number, was, ?_⟩
      rw [find_eq_ok_iff, resolve_eq_ok_iff]
      exact ⟨resolved.1, resolved.2.toRead⟩
  | free directory name =>
      rw [← same, numberAt, content?_eq_some_iff, node?, List.getElem?_eq_none (Nat.le_refl _)]
        at stored
      cases stored

/-- What is read from a path stays when something is written to a path that leads elsewhere. -/
theorem read_of_write_elsewhere (apart : ¬files.LeadTogether other path)
    (success : files.write path content = .ok written) {found : ByteArray}
    (isFile : files.read other = .ok found) : written.read other = .ok found := by
  have stillApart : ¬written.LeadTogether other path := fun together =>
    apart (leadTogether_of_write success isFile together)
  exact (read_iff_of_write success stillApart).mpr isFile

/-- What is read from the path of a file stays when something is written, unless the two paths lead
to one and the same file. -/
theorem read_eq_or_leadTogether_of_write (success : files.write path content = .ok written)
    {found : ByteArray} (isFile : files.read other = .ok found) :
    written.read other = files.read other ∨ files.LeadTogether other path := by
  by_cases together : files.LeadTogether other path
  · exact Or.inr together
  · exact Or.inl ((read_of_write_elsewhere together success isFile).trans isFile.symm)

/-- A file that can be read can be written to by every path that leads to it. -/
theorem exists_write_of_leadTogether {found : ByteArray} (isFile : files.read other = .ok found)
    (together : files.LeadTogether other path) (content : ByteArray) :
    ∃ written, files.write path content = .ok written := by
  rcases together with ⟨number, otherLeads, leads⟩
  rcases read_eq_ok_iff.mp isFile with ⟨_, resolved, stored⟩
  rcases Except.ok.inj (otherLeads.symm.trans resolved) with rfl
  rw [find_eq_ok_iff, resolve_eq_ok_iff] at leads
  have noDirectory : ∀ found inside, Target.found number = .found found →
      files.directory found ≠ .ok inside := by
    rintro _ inside ⟨⟩ isDirectory
    simp [content?_of_directory isDirectory] at stored
  have forWriting : files.resolve .write path = .ok (.found number) :=
    resolve_eq_ok_iff.mpr ⟨leads.1, leads.2.toWrite noDirectory⟩
  refine ⟨files.put content (.found number), ?_⟩
  rw [write, forWriting]
  simp only [bind, Except.bind, content?_eq_some_iff.mp stored]

end Paths

end SampleChart.Files
