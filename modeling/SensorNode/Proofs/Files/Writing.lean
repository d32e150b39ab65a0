import SensorNode.Files.Tree
import SensorNode.Proofs.Files.AtRest
import SensorNode.Proofs.Outcome
import SensorNode.Proofs.Text.Splitting

/-!
# Writing files

A write that succeeds puts one file in its place and does nothing else: no directory is made or lost
and no other file is touched. So every path leads where it led before, and the one that was written
to leads to the new file.
-/

namespace SensorNode

namespace FileTree

variable {tree : FileTree} {above other : List String} {name : String}
  {entries : List (String × FileTree)} {new : FileTree} {content : ByteArray}

/-- What a file holds; a directory holds nothing. -/
def content? : FileTree → Option ByteArray
  | file content => some content
  | directory _ => none

theorem content?_eq_none_iff : tree.content? = none ↔ ∃ entries, tree = directory entries := by
  cases tree <;> simp [content?]

theorem at?_append (tree : FileTree) (names more : List String) :
    tree.at? (names ++ more) = (tree.at? names).bind fun found => found.at? more := by
  induction names generalizing tree with
  | nil => simp [at?]
  | cons name names ih =>
      cases tree with
      | file content => simp [at?]
      | directory entries => cases h : entries.lookup name <;> simp [at?, h, ih]

theorem at?_append_singleton (h : tree.at? above = some (directory entries)) (name : String) :
    tree.at? (above ++ [name]) = entries.lookup name := by
  rw [at?_append, h]
  cases hlookup : entries.lookup name <;> simp [at?, hlookup]

theorem lookup_setEntry (name : String) (tree : FileTree) (entries : List (String × FileTree))
    (other : String) :
    (setEntry name tree entries).lookup other =
      if other = name then some tree else entries.lookup other := by
  induction entries with
  | nil =>
      by_cases h : other = name
      · simp [setEntry, h]
      · simp [setEntry, List.lookup_cons, h, beq_false_of_ne h]
  | cons entry entries ih =>
      obtain ⟨key, old⟩ := entry
      by_cases hkey : key = name
      · by_cases h : other = name
        · simp [setEntry, hkey, h]
        · simp [setEntry, List.lookup_cons, hkey, h, beq_false_of_ne h]
      · by_cases h : other = key
        · subst h
          simp [setEntry, hkey]
        · simp [setEntry, List.lookup_cons, hkey, beq_false_of_ne h, ih]

theorem put_cons {sub : FileTree} {places : List String} (h : entries.lookup name = some sub) :
    new.put (directory entries) (name :: places) =
      directory (setEntry name (new.put sub places) entries) := by
  rw [put, h, Option.getD_some]

/-- What was put in a directory stands there. -/
theorem at?_put (h : tree.at? above = some (directory entries)) :
    (new.put tree (above ++ [name])).at? (above ++ [name]) = some new := by
  induction above generalizing tree with
  | nil =>
      obtain rfl : tree = directory entries := Option.some.inj h
      simp [put, at?, lookup_setEntry]
  | cons step above ih =>
      obtain ⟨here, rfl⟩ : ∃ here, tree = directory here := by
        cases tree with
        | file content => exact nomatch h
        | directory here => exact ⟨here, rfl⟩
      obtain ⟨sub, hsub, hentries⟩ := Option.bind_eq_some_iff.mp h
      rw [List.cons_append, put_cons hsub, at?, lookup_setEntry, if_pos rfl]
      exact ih hentries

/-- A file put in a directory, not in the place of another one, changes nothing elsewhere. -/
theorem content?_put (h : tree.at? above = some (directory entries))
    (hname : ∀ inner, entries.lookup name ≠ some (directory inner))
    (hother : other ≠ above ++ [name]) :
    (((file content).put tree (above ++ [name])).at? other).map content? =
      (tree.at? other).map content? := by
  induction above generalizing tree other with
  | nil =>
      obtain rfl : tree = directory entries := Option.some.inj h
      cases other with
      | nil => rfl
      | cons first rest =>
          rw [List.nil_append, put, at?, at?, lookup_setEntry]
          split
          · next hfirst =>
            -- below a file there is nothing, neither before nor after
            subst hfirst
            obtain ⟨second, rest, rfl⟩ : ∃ second rest', rest = second :: rest' :=
              List.exists_cons_of_ne_nil fun hrest => hother (by simp [hrest])
            cases hlookup : entries.lookup first with
            | none => rfl
            | some old =>
                cases old with
                | file old => rfl
                | directory inner => exact absurd hlookup (hname inner)
          · rfl
  | cons step above ih =>
      obtain ⟨here, rfl⟩ : ∃ here, tree = directory here := by
        cases tree with
        | file content => exact nomatch h
        | directory here => exact ⟨here, rfl⟩
      obtain ⟨sub, hsub, hentries⟩ := Option.bind_eq_some_iff.mp h
      rw [List.cons_append, put_cons hsub]
      cases other with
      | nil => rfl
      | cons first rest =>
          rw [at?, at?, lookup_setEntry]
          split
          · next hfirst =>
            subst hfirst
            rw [hsub]
            exact ih hentries fun hrest => hother (by rw [hrest, List.cons_append])
          · rfl

end FileTree

namespace Disk

variable {disk after : Disk} {here there place : List String} {path content : String}

/-- The place that a path leads to. -/
def place? (disk : Disk) (path : String) : Except FileError (List String) :=
  if path.isEmpty then .error .notFound
  else disk.walk (disk.origin path) (Text.splitText '/' path)

theorem place?_eq_ok_iff : disk.place? path = .ok place ↔
    path.isEmpty = false ∧ disk.walk (disk.origin path) (Text.splitText '/' path) = .ok place := by
  unfold place?
  cases path.isEmpty <;> simp

theorem follow_eq_ok_iff {tree : FileTree} : disk.follow path = .ok tree ↔
    ∃ place, disk.place? path = .ok place ∧ disk.root.at? place = some tree := by
  unfold follow place?
  split
  · simp
  · rw [Outcome.bind_eq_ok_iff]
    refine exists_congr fun place => and_congr_right fun _ => ?_
    cases disk.root.at? place <;> simp

/-- One file is new or has a new content. All other files hold what they held, and the directories
are the same as before. -/
structure Wrote (disk : Disk) (place : List String) (content : String) (after : Disk) : Prop where
  home_eq : after.home = disk.home
  written : after.root.at? place = some (.file content.toUTF8)
  was_file : ∀ tree, disk.root.at? place = some tree → ∃ old, tree = .file old
  elsewhere : ∀ other, other ≠ place →
    (after.root.at? other).map FileTree.content? = (disk.root.at? other).map FileTree.content?

/-- A name that is not one of the places where a path stays or from which it goes up. -/
def IsPlain (name : String) : Prop := name ≠ "" ∧ name ≠ "." ∧ name ≠ ".."

theorem walk_append (disk : Disk) (here names more : List String) :
    disk.walk here (names ++ more) =
      (disk.walk here names).bind fun there => disk.walk there more := by
  induction names generalizing here with
  | nil => rfl
  | cons name names ih =>
      rw [List.cons_append, walk, walk]
      cases disk.root.at? here with
      | none => rfl
      | some tree =>
          cases tree with
          | file content => rfl
          | directory entries =>
              simp only [ih]
              repeat' split
              all_goals rfl

theorem walk_singleton {entries : List (String × FileTree)} {name : String}
    (h : disk.root.at? here = some (.directory entries)) (hname : IsPlain name)
    (hlookup : (entries.lookup name).isSome) : disk.walk here [name] = .ok (here ++ [name]) := by
  obtain ⟨hempty, hdot, hup⟩ := hname
  simp [walk, h, hempty, hdot, hup, hlookup]

/-- A path that ends in a slash leads where it leads without the slash. -/
theorem walk_of_append_empty {names : List String}
    (h : disk.walk here (names ++ [""]) = .ok there) : disk.walk here names = .ok there := by
  rw [walk_append] at h
  cases hnames : disk.walk here names with
  | error error => rw [hnames] at h; exact nomatch h
  | ok found =>
      rw [hnames] at h
      change disk.walk found [""] = .ok there at h
      rw [walk] at h
      split at h
      · exact nomatch h
      · exact nomatch h
      · simpa [walk] using h

namespace Wrote

variable (h : disk.Wrote place content after)

include h

/-- Whatever stood on the disk still does. -/
theorem isSome_at? {other : List String} (hother : (disk.root.at? other).isSome) :
    (after.root.at? other).isSome := by
  by_cases hplace : other = place
  · rw [hplace, h.written]
    rfl
  · rw [← Option.isSome_map (f := FileTree.content?), h.elsewhere other hplace, Option.isSome_map]
    exact hother

theorem at?_directory {other : List String} {entries : List (String × FileTree)}
    (hother : disk.root.at? other = some (.directory entries)) :
    ∃ entries', after.root.at? other = some (.directory entries') := by
  have hplace : other ≠ place := by
    rintro rfl
    obtain ⟨old, hold⟩ := h.was_file _ hother
    exact nomatch hold
  have hcontent := h.elsewhere other hplace
  rw [hother] at hcontent
  obtain ⟨tree, htree, hnone⟩ := Option.map_eq_some_iff.mp hcontent
  obtain ⟨entries', rfl⟩ := FileTree.content?_eq_none_iff.mp hnone
  exact ⟨entries', htree⟩

theorem lookup_isSome {other : List String} {entries entries' : List (String × FileTree)}
    (hbefore : disk.root.at? other = some (.directory entries))
    (hafter : after.root.at? other = some (.directory entries')) {name : String}
    (hname : (entries.lookup name).isSome) : (entries'.lookup name).isSome := by
  rw [← FileTree.at?_append_singleton hafter]
  rw [← FileTree.at?_append_singleton hbefore] at hname
  exact h.isSome_at? hname

/-- Names lead where they led. -/
theorem walk_eq_ok {names : List String} (hwalk : disk.walk here names = .ok there) :
    after.walk here names = .ok there := by
  induction names generalizing here with
  | nil => exact hwalk
  | cons name names ih =>
      rw [walk] at hwalk ⊢
      cases hhere : disk.root.at? here with
      | none => simp [hhere] at hwalk
      | some tree =>
          cases tree with
          | file content => simp [hhere] at hwalk
          | directory entries =>
              obtain ⟨entries', hafter⟩ := h.at?_directory hhere
              simp only [hhere] at hwalk
              simp only [hafter]
              split
              · next hstay => exact ih (by simpa [hstay] using hwalk)
              · next hstay =>
                rw [if_neg hstay] at hwalk
                split
                · next hup => exact ih (by simpa [hup] using hwalk)
                · next hup =>
                  rw [if_neg hup] at hwalk
                  split at hwalk
                  · next hlookup =>
                    rw [if_pos (h.lookup_isSome hhere hafter hlookup)]
                    exact ih hwalk
                  · exact nomatch hwalk

end Wrote

/-- A file to write has a plain name, the last one of its path, and a directory to stand in. -/
theorem of_target_eq_ok (h : disk.target path = .ok place) :
    path.isEmpty = false ∧ ∃ above name directory entries,
      Text.splitText '/' path = above ++ [name] ∧ IsPlain name ∧
        disk.walk (disk.origin path) above = .ok directory ∧
        disk.root.at? directory = some (.directory entries) ∧
        (∀ inner, entries.lookup name ≠ some (.directory inner)) ∧ place = directory ++ [name] := by
  cases hpath : path.isEmpty with
  | true =>
      rw [target, hpath] at h
      exact nomatch h
  | false =>
      refine ⟨rfl, ?_⟩
      simp only [target, hpath, Bool.false_eq_true, if_false] at h
      split at h
      · exact nomatch h
      next name above hdrop =>
      obtain ⟨directory, hwalk, h⟩ := Outcome.bind_eq_ok_iff.mp h
      split at h
      · exact nomatch h
      · exact nomatch h
      next entries hentries =>
      split at h
      · exact nomatch h
      next hname =>
      simp only [Bool.or_eq_true, Bool.not_eq_true', List.isEmpty_eq_false_iff, decide_eq_true_eq,
        not_or, Classical.not_not] at hname
      obtain ⟨⟨htrailing, hdot⟩, hup⟩ := hname
      have hparts : (Text.splitText '/' path).reverse = name :: above := by
        rw [← List.takeWhile_append_dropWhile (p := fun part : String => part.isEmpty)
          (l := (Text.splitText '/' path).reverse), htrailing, hdrop, List.nil_append]
      have hempty : name ≠ "" := by
        rintro rfl
        rw [hparts] at htrailing
        exact nomatch htrailing
      refine ⟨above.reverse, name, directory, entries, ?_, ⟨hempty, hdot, hup⟩, hwalk, hentries, ?_⟩
      · rw [← List.reverse_cons, ← hparts, List.reverse_reverse]
      · split at h
        · exact nomatch h
        · next hlookup => exact ⟨hlookup, (Except.ok.inj h).symm⟩

/-- A write that succeeds puts the file in the place of its path, and the path leads there. -/
theorem wrote_of_write (h : disk.write path content = .ok after) :
    ∃ place, disk.target path = .ok place ∧ disk.Wrote place content after ∧
      after.place? path = .ok place := by
  obtain ⟨place, htarget, h⟩ := Outcome.bind_eq_ok_iff.mp h
  obtain rfl := Except.ok.inj h
  obtain ⟨hpath, above, name, directory, entries, hsplit, hname, hwalk, hentries, hfile, rfl⟩ :=
    of_target_eq_ok htarget
  have hwrote : disk.Wrote (directory ++ [name]) content
      ⟨FileTree.put (.file content.toUTF8) disk.root (directory ++ [name]), disk.home⟩ := by
    refine ⟨rfl, FileTree.at?_put hentries, fun tree htree => ?_,
      fun other hother => FileTree.content?_put hentries hfile hother⟩
    rw [FileTree.at?_append_singleton hentries] at htree
    cases tree with
    | file old => exact ⟨old, rfl⟩
    | directory inner => exact absurd htree (hfile inner)
  obtain ⟨entries', hafter⟩ := hwrote.at?_directory hentries
  have hlookup : (entries'.lookup name).isSome := by
    rw [← FileTree.at?_append_singleton hafter, hwrote.written]
    rfl
  refine ⟨_, htarget, hwrote, place?_eq_ok_iff.mpr ⟨hpath, ?_⟩⟩
  -- the directory is found as before the write, and the file in it
  have hdirectory := hwrote.walk_eq_ok hwalk
  rw [hsplit, walk_append]
  exact (congrArg (Except.bind · _) hdirectory).trans (walk_singleton hafter hname hlookup)

theorem isDirectory_iff : disk.isDirectory path ↔
    ∃ place entries, disk.place? path = .ok place ∧
      disk.root.at? place = some (.directory entries) := by
  unfold isDirectory
  constructor
  · intro h
    split at h
    · next tree htree =>
      obtain ⟨place, hplace, hat⟩ := follow_eq_ok_iff.mp htree
      cases tree with
      | file content => exact nomatch h
      | directory entries => exact ⟨place, entries, hplace, hat⟩
    · exact nomatch h
  · rintro ⟨place, entries, hplace, hat⟩
    rw [follow_eq_ok_iff.mpr ⟨place, hplace, hat⟩]
    rfl

theorem origin_joinPath (disk : Disk) (hpath : path.isEmpty = false) (name : String) :
    disk.origin (joinPath path name) = disk.origin path := by
  obtain ⟨c, cs, hcs⟩ : ∃ c cs, path.toList = c :: cs :=
    List.exists_cons_of_ne_nil fun h => by simp [String.toList_eq_nil_iff.mp h] at hpath
  have hhead : (joinPath path name).toList.head? = some c := by
    unfold joinPath
    split <;> simp [hcs]
  rw [origin, origin, hhead, hcs, List.head?_cons]

/-- A name behind a path is one name more, in the place of the empty one that a slash at the end of
the path makes. -/
theorem splitText_joinPath {name : String} (hpath : path.isEmpty = false)
    (hslash : '/' ∉ name.toList) :
    ∃ above, Text.splitText '/' (joinPath path name) = above ++ [name] ∧
      (Text.splitText '/' path = above ∨ Text.splitText '/' path = above ++ [""]) := by
  have hname : Text.split '/' name.toList = [name.toList] := Text.split_of_notMem hslash
  unfold joinPath Text.splitText
  rw [hpath, Bool.false_or]
  split
  · next hlast =>
    obtain ⟨cs, hcs⟩ := List.getLast?_eq_some_iff.mp (of_decide_eq_true hlast)
    refine ⟨(Text.split '/' cs).map String.ofList, ?_, .inr ?_⟩
    · rw [String.toList_append, hcs, List.append_assoc, List.singleton_append, Text.split_append,
        hname]
      simp
    · rw [hcs, Text.split_append]
      simp [Text.split]
  · refine ⟨_, ?_, .inl rfl⟩
    rw [String.toList_append, String.toList_append, List.append_assoc]
    change (Text.split '/' (path.toList ++ '/' :: name.toList)).map _ = _
    rw [Text.split_append, hname]
    simp

/-- A name put behind the path of a directory is the name of an entry there. -/
theorem target_joinPath {name : String} (hdirectory : disk.isDirectory path)
    (hslash : '/' ∉ name.toList) (h : disk.target (joinPath path name) = .ok place) :
    ∃ directory, disk.place? path = .ok directory ∧ place = directory ++ [name] := by
  obtain ⟨directory, -, hplace, -⟩ := isDirectory_iff.mp hdirectory
  obtain ⟨hpath, hplace⟩ := place?_eq_ok_iff.mp hplace
  obtain ⟨-, above, last, found, entries, hsplit, -, hwalk, -, -, rfl⟩ := of_target_eq_ok h
  obtain ⟨above', hsplit', habove⟩ := splitText_joinPath hpath hslash
  obtain ⟨rfl, hlast⟩ := List.append_inj' (hsplit.symm.trans hsplit') rfl
  obtain rfl : last = name := (List.cons.inj hlast).1
  rw [origin_joinPath disk hpath] at hwalk
  have hdirectory : disk.walk (disk.origin path) above = .ok directory := by
    rcases habove with habove | habove
    · exact habove ▸ hplace
    · exact walk_of_append_empty (habove ▸ hplace)
  obtain rfl : directory = found := Except.ok.inj (hdirectory.symm.trans hwalk)
  exact ⟨directory, place?_eq_ok_iff.mpr ⟨hpath, hplace⟩, rfl⟩

/-- The files are those of the disk as far as they are granted. Whether a path is a directory is
told truly, and a look changes nothing. A write makes the whole file, or it fails and does nothing.
-/
structure Serves (files : FileAccess (StateM Disk)) : Prop where
  isDirectory : ∀ disk path, (files.isDirectory path).run disk = (disk.isDirectory path, disk)
  names : ∀ disk path, ((files.names path).run disk).2 = disk
  read : ∀ disk path, ((files.read path).run disk).2 = disk
  write : ∀ disk path content,
    (∃ error, (files.write path content).run disk = (.error error, disk)) ∨
      ∃ after, disk.write path content = .ok after ∧
        (files.write path content).run disk = (.ok (), after)

theorem Serves.atRest {files : FileAccess (StateM Disk)} (h : Serves files) (disk : Disk) :
    files.AtRest disk :=
  ⟨fun path => congrArg Prod.snd (h.isDirectory disk path), h.names disk, h.read disk⟩

/-- All files of a disk can be granted. -/
theorem access_serves : Serves access where
  isDirectory _ _ := rfl
  names _ _ := rfl
  read _ _ := rfl
  write disk path content := by
    cases hwrite : disk.write path content with
    | error error =>
        refine .inl ⟨error, ?_⟩
        simp only [access, bind_pure_comp, StateT.run_bind, StateT.run_get, pure_bind, hwrite]
        rfl
    | ok after =>
        refine .inr ⟨after, rfl, ?_⟩
        simp only [access, bind_pure_comp, StateT.run_bind, StateT.run_get, pure_bind, hwrite]
        rfl

end Disk

end SensorNode
