import Mathlib.Data.List.TakeWhile
import Roster.Proofs.Text.Unreadable
import Roster.Proofs.Url.Escaping
import Roster.Settings.Basic
import Roster.Store.Opening

/-!
# Naming a database by its path

A locator is made of the path of a database as it is, and read in two ways: as it is written, to make
the folder that is to hold the database, and up to the parameters and unescaped, to look for the file
and to open it. The first reading gives the path back. The second one does so exactly if the path has
no question mark, at which the parameters would begin, and no escaped octet. Otherwise it never does,
since what is unescaped has fewer octets than the path.
-/

namespace Roster

namespace Locator

/-- A path begins with exactly one slash. -/
def OneSlash (path : String) : Prop :=
  path.toList.head? = some '/' ∧ path.toList.tail.head? ≠ some '/'

instance (path : String) : Decidable (OneSlash path) :=
  inferInstanceAs (Decidable (_ ∧ _))

/-- A locator names the file of a path in both of its readings: the folder is made for this path, and
this is the file that is looked for and opened. -/
structure NamesFile (locator path : String) : Prop where
  folder : writtenPath? locator = some path
  file : ∃ l, parse locator = .ok l ∧ l.file = path

/-- A database of its own on the disk, to be read and written. -/
def plain (path : String) : Locator :=
  ⟨path, false, .readWrite, none⟩

/-- The path of a file in a locator: all before the parameters. -/
def filePart (path : String) : List Char :=
  path.toList.takeWhile (· != '?')

variable {path : String} {l l' : Locator}

/-! ## The locator of a path -/

/-- A path with one slash in front is a slash and something without one in front. -/
theorem OneSlash.exists_cons (h : OneSlash path) :
    ∃ cs, path.toList = '/' :: cs ∧ cs.head? ≠ some '/' := by
  obtain ⟨hfirst, hsecond⟩ := h
  obtain ⟨cs, hpath⟩ := List.head?_eq_some_iff.mp hfirst
  rw [hpath, List.tail_cons] at hsecond
  exact ⟨cs, hpath, hsecond⟩

/-- Behind the only slash at the front of a path, there is none to drop. -/
theorem dropWhile_slash {cs : List Char} (h : cs.head? ≠ some '/') :
    cs.dropWhile (· == '/') = cs := by
  cases cs with
  | nil => rfl
  | cons c rest =>
    have hc : (c == '/') = false := by simpa using h
    rw [List.dropWhile_cons_of_neg (by rw [hc]; exact Bool.false_ne_true)]

/-- The locator of a path with one slash in front is the path behind what every locator begins with. -/
theorem toList_ofPath (h : OneSlash path) : (ofPath path).toList = opening ++ path.toList := by
  obtain ⟨cs, hpath, hhead⟩ := h.exists_cons
  simp [ofPath, hpath, dropWhile_slash hhead]

/-- As it is written, the locator gives the path back. -/
theorem writtenPath?_ofPath (h : OneSlash path) : writtenPath? (ofPath path) = some path := by
  have hlocator := toList_ofPath h
  obtain ⟨cs, hpath, hhead⟩ := h.exists_cons
  have hopening : opening.isPrefixOf (opening ++ path.toList) = true := by
    rw [List.isPrefixOf_iff_prefix]
    exact List.prefix_append _ _
  simp only [writtenPath?, hlocator, hopening, if_true, List.drop_left]
  simp [hpath, dropWhile_slash hhead, ← String.toList_inj]

/-- A word in front of a text is dropped first. -/
theorem dropRepeated_append (word cs : List Char) (n : Nat) :
    dropRepeated word (n + 1) (word ++ cs) = dropRepeated word n cs := by
  have hprefix : word.isPrefixOf (word ++ cs) = true := by
    rw [List.isPrefixOf_iff_prefix]
    exact List.prefix_append word cs
  rw [dropRepeated, if_pos hprefix, List.drop_left]

/-- What stands behind the beginning of the locator is the path. -/
theorem essence_ofPath (h : OneSlash path) : essence (ofPath path).toList = path.toList := by
  rw [toList_ofPath h]
  obtain ⟨cs, hpath, -⟩ := h.exists_cons
  have hopening : opening.isPrefixOf path.toList = false := by rw [hpath]; rfl
  have hscheme : scheme.isPrefixOf path.toList = false := by rw [hpath]; rfl
  have hlength : (opening ++ path.toList).length = path.toList.length + 8 + 1 := by
    rw [List.length_append, Nat.add_comm]; rfl
  rw [essence, hlength, dropRepeated_append, dropRepeated_of_not_prefix hopening,
    dropRepeated_of_not_prefix hscheme]

/-! ## Parameters -/

/-- A parameter leaves the file alone. -/
theorem file_withParameter {name value : String} (h : l.withParameter name value = .ok l') :
    l'.file = l.file := by
  simp only [withParameter] at h
  split at h <;> try split at h
  all_goals cases h
  all_goals rfl

/-- Parameters leave the file alone. -/
theorem file_withParameters {parameters : List (String × String)}
    (h : l.withParameters parameters = .ok l') : l'.file = l.file := by
  induction parameters generalizing l with
  | nil =>
    cases h
    rfl
  | cons parameter rest ih =>
    obtain ⟨name, value⟩ := parameter
    rw [withParameters] at h
    cases hfirst : l.withParameter name value with
    | error e =>
      rw [hfirst] at h
      cases h
    | ok next =>
      rw [hfirst] at h
      exact (ih h).trans (file_withParameter hfirst)

/-! ## Reading the file back -/

/-- The part of a path before its first question mark is not the sign for a database in memory, as it
begins with a slash. -/
theorem filePart_ne_memoryFile (h : OneSlash path) : filePart path ≠ memoryFile.toList := by
  obtain ⟨cs, hpath, -⟩ := h.exists_cons
  rw [filePart, hpath, List.takeWhile_cons_of_pos (by decide)]
  intro heq
  exact absurd (List.cons.inj heq).1 (by decide)

/-- What is opened is the unescaped part of the path before its first question mark, if that is a text
and all parameters behind it are known. -/
theorem parse_ofPath (h : OneSlash path) (hparse : parse (ofPath path) = .ok l) :
    Text.fault? (Url.unescape (filePart path)) = none ∧
      l.file = String.ofList (Url.unescaped (filePart path)) := by
  simp only [parse, essence_ofPath h, ofFile] at hparse
  rw [← filePart, if_neg (by simpa using filePart_ne_memoryFile h)] at hparse
  cases hfault : Text.fault? (Url.unescape (filePart path)) with
  | some fault =>
    rw [hfault] at hparse
    cases hparse
  | none =>
    rw [hfault] at hparse
    exact ⟨rfl, file_withParameters hparse⟩

/-- All of a path stands before the parameters exactly if it has no question mark. -/
theorem filePart_eq_iff : filePart path = path.toList ↔ '?' ∉ path.toList := by
  rw [filePart, List.takeWhile_eq_self_iff]
  constructor
  · exact fun hall hmem => absurd (hall _ hmem) (by decide)
  · exact fun hnone c hc => bne_iff_ne.mpr fun heq => hnone (heq ▸ hc)

/-- Nothing of a path is left for parameters if all of its octets stand before them. -/
theorem filePart_eq_of_length_le
    (h : (Text.toOctets path.toList).length ≤ (Text.toOctets (filePart path)).length) :
    filePart path = path.toList := by
  have hsplit : filePart path ++ path.toList.dropWhile (· != '?') = path.toList :=
    List.takeWhile_append_dropWhile
  cases hrest : path.toList.dropWhile (· != '?') with
  | nil => rw [hrest, List.append_nil] at hsplit; exact hsplit
  | cons c rest =>
    have hpos := List.length_pos_iff.mpr (Text.octetsOfChar_ne_nil c)
    rw [← hsplit, hrest, Text.toOctets_append, Text.toOctets_cons, List.length_append,
      List.length_append] at h
    omega

/-- A path without question marks and escaped octets names its file. -/
theorem parse_ofPath_of_plain (h : OneSlash path) (hmark : '?' ∉ path.toList)
    (hescape : ¬Url.HasEscape path.toList) : parse (ofPath path) = .ok (plain path) := by
  have hoctets := Url.unescape_eq_toOctets_iff.mpr hescape
  have hpart := filePart_eq_iff.mpr hmark
  have hrest : path.toList.dropWhile (· != '?') = [] :=
    List.dropWhile_eq_nil_iff.mpr (List.takeWhile_eq_self_iff.mp hpart)
  have hmemory := filePart_ne_memoryFile h
  rw [hpart] at hmemory
  have hfault : Text.fault? (Text.toOctets path.toList) = none :=
    Text.fault?_eq_none_iff.mpr ⟨path.toList, rfl⟩
  simp only [parse, essence_ofPath h, ofFile, hrest]
  rw [← filePart, hpart, if_neg (by simpa using hmemory), hoctets, hfault, Text.ofOctets_toOctets,
    String.ofList_toList]
  rfl

/-- The locator of a path names its file exactly if the path has no question mark and no escaped
octet. -/
theorem namesFile_ofPath_iff (h : OneSlash path) :
    NamesFile (ofPath path) path ↔ '?' ∉ path.toList ∧ ¬Url.HasEscape path.toList := by
  constructor
  · rintro ⟨-, l, hparse, hfile⟩
    obtain ⟨hfault, hread⟩ := parse_ofPath h hparse
    have hchars : Url.unescaped (filePart path) = path.toList := by
      rw [← String.toList_ofList (l := Url.unescaped (filePart path)), ← hread, hfile]
    have hoctets : Url.unescape (filePart path) = Text.toOctets path.toList := by
      rw [← hchars, Url.unescaped, Text.toOctets_ofOctets hfault]
    -- Unescaping adds no octets, so none of those of the path can stand behind a question mark.
    have hpart : filePart path = path.toList := by
      refine filePart_eq_of_length_le ?_
      rw [← hoctets]
      exact (Url.spares_unescape (filePart path)).length_le
    rw [hpart] at hoctets
    exact ⟨filePart_eq_iff.mp hpart, Url.unescape_eq_toOctets_iff.mp hoctets⟩
  · rintro ⟨hmark, hescape⟩
    exact ⟨writtenPath?_ofPath h, plain path, parse_ofPath_of_plain h hmark hescape, rfl⟩

end Locator

namespace Disk

/-- Opens the database at a path, which is made first if there is none, with the folders that lead to
it. Answers the disk too. -/
def openPath (d : Disk) (path : String) : Disk × Except OpeningError Connection :=
  match d.makeParent path with
  | .error e => (d, .error (.folder e))
  | .ok d =>
    match if d.has path then .ok d else d.makeDatabase (.plain path) with
    | .error reason => (d, .error (.making reason))
    | .ok d =>
      match d.connect (.plain path) with
      | .error e => (d, .error e)
      | .ok (d, connection) => (d, .ok connection)

/-- By a locator that names the file of its path, it is the database at this path that is opened. -/
theorem openDatabase_ofPath {path : String} (hslash : Locator.OneSlash path)
    (hnames : Locator.NamesFile (Locator.ofPath path) path) (d : Disk) :
    d.openDatabase (Locator.ofPath path) = d.openPath path := by
  obtain ⟨hmark, hescape⟩ := (Locator.namesFile_ofPath_iff hslash).mp hnames
  have hparse := Locator.parse_ofPath_of_plain hslash hmark hescape
  simp only [openDatabase, openPath, hnames.folder, hparse]
  rfl

end Disk

namespace Settings

variable {v : Variables} {d d' : Disk} {locator : String}

/-- The locator of the database is that of its path, once the folder is made. -/
theorem databaseLocator_of_ok (h : d.makeParent (databasePath v d) = .ok d') :
    databaseLocator v d = .ok (Locator.ofPath (databasePath v d), d') := by
  unfold databaseLocator
  simp only [h]

/-- Wherever the folder can be made, there is a locator of the database. -/
theorem exists_databaseLocator (h : (d.makeParent (databasePath v d)).isOk = true) :
    ∃ d', databaseLocator v d = .ok (Locator.ofPath (databasePath v d), d') := by
  cases hparent : d.makeParent (databasePath v d) with
  | error e =>
    rw [hparent] at h
    cases h
  | ok made => exact ⟨made, databaseLocator_of_ok hparent⟩

/-- A locator of the database is that of its path, whose folder was made. -/
theorem databaseLocator_eq (h : databaseLocator v d = .ok (locator, d')) :
    d.makeParent (databasePath v d) = .ok d' ∧ locator = Locator.ofPath (databasePath v d) := by
  cases hparent : d.makeParent (databasePath v d) with
  | error e =>
    unfold databaseLocator at h
    simp only [hparent, reduceCtorEq] at h
  | ok made =>
    rw [databaseLocator_of_ok hparent, Except.ok.injEq, Prod.mk.injEq] at h
    exact ⟨congrArg Except.ok h.2, h.1.symm⟩

/-- For a path with one slash in front, the folder is made that is to hold the file of the path, and
the locator of the database as it is written gives the path back. The file that is looked for and
opened is the one that the unescaped part of the path before its first question mark names. So the
locator names the file of the path exactly if the path has no question mark and no escaped octet. Then
it opens the database at this path, whatever the disk holds. -/
theorem databaseLocator_namesFile_iff (hslash : Locator.OneSlash (databasePath v d))
    (hlocator : databaseLocator v d = .ok (locator, d')) :
    d.makeParent (databasePath v d) = .ok d' ∧
      Locator.writtenPath? locator = some (databasePath v d) ∧
      (∀ l, Locator.parse locator = .ok l →
        l.file = String.ofList (Url.unescaped (Locator.filePart (databasePath v d)))) ∧
      (Locator.NamesFile locator (databasePath v d) ↔
        '?' ∉ (databasePath v d).toList ∧ ¬Url.HasEscape (databasePath v d).toList) ∧
      (Locator.NamesFile locator (databasePath v d) →
        ∀ disk : Disk, disk.openDatabase locator = disk.openPath (databasePath v d)) := by
  obtain ⟨hparent, rfl⟩ := databaseLocator_eq hlocator
  exact ⟨hparent, Locator.writtenPath?_ofPath hslash,
    fun l hparse => (Locator.parse_ofPath hslash hparse).2, Locator.namesFile_ofPath_iff hslash,
    fun hnames disk => Disk.openDatabase_ofPath hslash hnames disk⟩

/-- A percent sign that escapes no octet stands for itself. -/
theorem databaseLocator_of_lone_percent :
    let v := Variables.empty.set "DATABASE_NAME" "100%.db"
    let d := Disk.blank ["home"]
    Locator.OneSlash (databasePath v d) ∧ ∃ locator d', databaseLocator v d = .ok (locator, d') ∧
      Locator.NamesFile locator "/home/100%.db" := by
  intro v d
  have hpath : databasePath v d = "/home/100%.db" := by decide +kernel
  have hslash : Locator.OneSlash (databasePath v d) := by decide +kernel
  obtain ⟨d', hlocator⟩ := exists_databaseLocator (v := v) (d := d) (by decide +kernel)
  obtain ⟨-, -, -, hnames, -⟩ := databaseLocator_namesFile_iff hslash hlocator
  rw [hpath] at hnames hlocator
  exact ⟨hslash, _, d', hlocator, hnames.mpr (by decide +kernel)⟩

/-- What stands behind a question mark is taken for a parameter, and an escaped space for a space: no
database is named, or one in a folder other than the one that was made. -/
theorem databaseLocator_of_marks :
    let question := Variables.empty.set "DATABASE_NAME" "what?.db"
    let escaped := Variables.empty.set "DATABASE_NAME" "a%20b/orgs.db"
    let d := Disk.blank ["home"]
    (Locator.OneSlash "/home/what?.db" ∧ ∃ locator d',
        databaseLocator question d = .ok (locator, d') ∧
        Locator.writtenPath? locator = some "/home/what?.db" ∧
        Locator.parse locator = .error (.unknownParameter ".db") ∧
        ¬Locator.NamesFile locator (databasePath question d)) ∧
      (Locator.OneSlash "/home/a%20b/orgs.db" ∧ ∃ locator d',
        databaseLocator escaped d = .ok (locator, d') ∧
        Locator.writtenPath? locator = some "/home/a%20b/orgs.db" ∧
        Locator.parse locator = .ok (.plain "/home/a b/orgs.db") ∧
        ¬Locator.NamesFile locator (databasePath escaped d)) := by
  intro question escaped d
  have hquestion : databasePath question d = "/home/what?.db" := by decide +kernel
  have hescaped : databasePath escaped d = "/home/a%20b/orgs.db" := by decide +kernel
  have hslash : Locator.OneSlash "/home/what?.db" := by decide +kernel
  have hslash' : Locator.OneSlash "/home/a%20b/orgs.db" := by decide +kernel
  obtain ⟨d', hlocator⟩ := exists_databaseLocator (v := question) (d := d) (by decide +kernel)
  obtain ⟨d'', hlocator'⟩ := exists_databaseLocator (v := escaped) (d := d) (by decide +kernel)
  rw [hquestion] at hlocator ⊢
  rw [hescaped] at hlocator' ⊢
  refine ⟨⟨hslash, _, d', hlocator, Locator.writtenPath?_ofPath hslash, by decide +kernel, ?_⟩,
    ⟨hslash', _, d'', hlocator', Locator.writtenPath?_ofPath hslash', by decide +kernel, ?_⟩⟩
  · rw [Locator.namesFile_ofPath_iff hslash]
    decide +kernel
  · rw [Locator.namesFile_ofPath_iff hslash']
    decide +kernel

end Settings

end Roster
