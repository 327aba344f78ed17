import Recipients.CommandLine.Run
import Recipients.Proofs.Alias.Changes
import Recipients.Proofs.Alias.File

/-
  What a run leaves in files. Everything before an alias is added only reads (`ReadsOnly`): the settings,
  the alias file and the other files. Adding fails before it writes or not at all. So a run that fails
  leaves all files, and one that has added an alias leaves one more line in the alias file
  (`run_all_or_nothing`).
-/

namespace Recipients

/-! ## Reading -/

/-- The work leaves every file as it is. -/
def ReadsOnly {α : Type} (work : StateM Disk α) : Prop := ∀ d, (work d).2 = d

namespace ReadsOnly

variable {α β : Type}

theorem pure (a : α) : ReadsOnly (Pure.pure a) := fun _ => rfl

theorem bind {work : StateM Disk α} {next : α → StateM Disk β} (h : ReadsOnly work)
    (hnext : ∀ a, ReadsOnly (next a)) : ReadsOnly (work >>= next) := by
  intro d
  show ((next (work d).1) (work d).2).2 = d
  rw [h d]
  exact hnext _ d

theorem isThere (path : Text) : ReadsOnly (Disk.access.isThere path) := fun _ => rfl

theorem read (path : Text) : ReadsOnly (Disk.access.read path) := fun _ => rfl

theorem readText (path : Text) : ReadsOnly (Disk.access.readText path) := by
  refine bind (read path) fun found => ?_
  cases found with
  | error e => exact pure _
  | ok bs =>
    dsimp only
    split <;> exact pure _

theorem readAliases (f : AliasFile) : ReadsOnly (AliasFile.read Disk.access f) := by
  refine bind (read f.path) fun found => ?_
  cases found with
  | error e => exact pure _
  | ok bs =>
    dsimp only
    split <;> exact pure _

theorem load (readJson : Text → Option Json) (path : Text) :
    ReadsOnly (Settings.load Disk.access readJson path) := by
  refine bind (readText path) fun found => ?_
  split
  · exact pure _
  · exact pure _
  · split <;> exact pure _

theorem sourceFile (b : Book) (path : Text) : ReadsOnly (b.sourceFile Disk.access path) := by
  unfold Book.sourceFile
  split
  · exact pure _
  · refine bind (readAliases _) fun found => ?_
    split <;> exact pure _

theorem runFiles (b : Book) (paths : List Text) :
    ReadsOnly (CommandLine.runFiles Disk.access b paths) := by
  induction paths generalizing b with
  | nil => exact pure _
  | cons path paths ih =>
    refine bind (sourceFile b path) fun found => ?_
    split
    · exact pure _
    · exact bind (ih _) fun _ => pure _

theorem prepare (readers : CommandLine.Readers) (tools : Tools) (env : Environment)
    (users : Directory) (inv : CommandLine.Invocation) :
    ReadsOnly (CommandLine.prepare Disk.access readers tools env users inv) := by
  refine bind (load _ _) fun found => ?_
  split
  · exact pure _
  · split
    · exact pure _
    · exact bind (isThere _) fun _ => runFiles _ _

end ReadsOnly

/-! ## Adding -/

namespace Book

variable {b b' : Book} {a : Alias}

/-- A new alias that can be added has its mailboxes in wire form, and nothing else has changed. -/
theorem create_eq_none (h : b.create a = (b', none)) :
    ∃ aliases addresses, b' = { b with aliases } ∧
      aliases.get? a.name = some { a with addresses } ∧
      a.addresses.toWire b.domainPolicy = (addresses, []) := by
  unfold create at h
  split at h
  · cases h
  · rename_i addresses hwire
    cases hfound : b.aliases.get? a.name with
    | some old => simp [AliasRegistry.create, hfound] at h
    | none =>
      have hcreate : b.aliases.create { a with addresses } =
          (b.aliases.append { a with addresses }, none) :=
        (AliasRegistry.perform_of_free (a := { a with addresses }) hfound).1
      rw [hcreate] at h
      exact ⟨_, addresses, (Prod.mk.inj h).1.symm, AliasRegistry.get?_append hfound, hwire⟩

/-- The alias file on the second disk holds what it held on the first one, finished, and after that
    the line of an alias in the charset of the file. -/
def HasAdded (b : Book) (a : Alias) (d d' : Disk) : Prop :=
  ∃ charset line, b.settings.fileCharset = .ok charset ∧
    charset.encode (a.line ++ ['\n']) = some line ∧
    d'.read b.aliasPath = .ok (d.held b.aliasPath ++
      (if d.held b.aliasPath = [] ∨ (d.held b.aliasPath).getLast? = some AliasFile.lineFeed then []
        else [AliasFile.lineFeed]) ++ line)

theorem append_cases (b : Book) (a : Alias) (d : Disk) :
    (∃ e, b.append Disk.access a d = (.error e, d)) ∨
      ∃ d', b.HasAdded a d d' ∧ b.append Disk.access a d = (.ok (), d') := by
  unfold append
  cases hcharset : b.settings.fileCharset with
  | error e => exact .inl ⟨e, rfl⟩
  | ok charset =>
    refine (AliasFile.append_cases { path := b.aliasPath, charset } a d).imp_right ?_
    rintro ⟨line, d', hline, hextend, happend⟩
    refine ⟨d', ⟨charset, line, hcharset, hline, ?_⟩, happend⟩
    rw [Disk.read_extend hextend, AliasFile.finish_eq, List.append_assoc]

end Book

namespace CommandLine

/-- Adding fails and leaves the files, or the alias is in the book and its line in the alias file. -/
theorem add_cases (b : Book) (name : Text) (texts : List Text) (comment : Option Text)
    (tags : List Text) (fixName : Bool) (d : Disk) :
    (∃ r, add Disk.access b name texts comment tags fixName d = (.error r, d)) ∨
      ∃ addresses b' stored d', readAddresses texts = .ok addresses ∧
        b.create { name := if fixName then Alias.safeName name else name, addresses, comment, tags } =
          (b', none) ∧
        b'.aliases.get? (if fixName then Alias.safeName name else name) = some stored ∧
        b.HasAdded stored d d' ∧
        add Disk.access b name texts comment tags fixName d = (.ok (stored.line ++ ['\n']), d') := by
  unfold add
  generalize (if fixName then Alias.safeName name else name) = name
  cases readAddresses texts with
  | error r => exact .inl ⟨r, rfl⟩
  | ok addresses =>
    dsimp only
    rcases hcreate : b.create { name, addresses, comment, tags } with ⟨b', e | e⟩
    · obtain ⟨aliases, wire, rfl, hstored, -⟩ := Book.create_eq_none hcreate
      dsimp only at hstored ⊢
      rw [hstored]
      dsimp only
      rcases Book.append_cases { b with aliases } { name, addresses := wire, comment, tags } d with
        ⟨e, happend⟩ | ⟨d', hadded, happend⟩
      · refine .inl ⟨.inDoing ("cannot write ".toList ++ b.aliasPath) e, ?_⟩
        simp only [bind, StateT.bind, happend]
        rfl
      · refine .inr ⟨addresses, { b with aliases }, _, d', rfl, hcreate, hstored, hadded, ?_⟩
        simp only [bind, StateT.bind, happend]
        rfl
    · exact .inl ⟨_, rfl⟩

/-- An action that fails leaves the files. -/
theorem perform_error {b : Book} {action : Action} {d d' : Disk} {r : Report}
    (h : perform Disk.access b action d = (.error r, d')) : d' = d := by
  cases action with
  | expand texts display => exact (Prod.mk.inj h).2.symm
  | aliases tag => exact (Prod.mk.inj h).2.symm
  | check texts => exact (Prod.mk.inj h).2.symm
  | add name texts comment tags fixName =>
    rcases add_cases b name texts comment tags fixName d with ⟨r', hr⟩ | ⟨_, _, _, _, -, -, -, -, hr⟩
    · exact (Prod.mk.inj (hr.symm.trans h)).2.symm
    · cases hr.symm.trans h

/-- A run whose arguments ask for an action: the book is prepared, and the action may fail or not. -/
theorem run_cases {readers : Readers} {args : List Text} {inv : Invocation}
    (hargs : readers.arguments args = .ok inv) (tools : Tools) (env : Environment) (users : Directory)
    (d : Disk) :
    let ran := run Disk.access readers tools env users args d
    (ran.1.code = 1 ∧ ran.2 = d) ∨
      ∃ complaints b text d',
        prepare Disk.access readers tools env users inv d = ((complaints, .ok b), d) ∧
        perform Disk.access b inv.action d = (.ok text, d') ∧
        ran = ({ stdout := text, stderr := complaints }, d') := by
  have hreads := ReadsOnly.prepare readers tools env users inv d
  simp only [run, hargs, bind, StateT.bind]
  generalize prepare Disk.access readers tools env users inv d = prepared at hreads ⊢
  obtain ⟨⟨complaints, r | b⟩, d₀⟩ := prepared
  · exact .inl ⟨rfl, hreads⟩
  · obtain rfl : d₀ = d := hreads
    dsimp only
    obtain ⟨result, d', hperform⟩ : ∃ result d', perform Disk.access b inv.action d₀ = (result, d') :=
      ⟨_, _, rfl⟩
    simp only [StateT.bind, hperform]
    cases result with
    | error r => exact .inl ⟨rfl, perform_error hperform⟩
    | ok text => exact .inr ⟨complaints, b, text, d', rfl, hperform, rfl⟩

/-- A run that fails leaves all files, and so does one whose arguments ask for no action. A run that
    is to add an alias, and succeeds, has put it into the book that settings and files give, and the
    line of the alias as it is there at the end of the alias file. That is so whatever reads the
    arguments and the stored settings, and with any tools. -/
theorem run_all_or_nothing (readers : Readers) (tools : Tools) (env : Environment)
    (users : Directory) (args : List Text) (d : Disk) :
    let ran := run Disk.access readers tools env users args d
    (ran.1.code ≠ 0 → ran.2 = d) ∧
    (∀ e, readers.arguments args = .error e → ran.2 = d) ∧
    ∀ inv name texts comment tags fixName, readers.arguments args = .ok inv →
      inv.action = .add name texts comment tags fixName → ran.1.code = 0 →
      ∃ complaints b addresses b' stored,
        prepare Disk.access readers tools env users inv d = ((complaints, .ok b), d) ∧
        readAddresses texts = .ok addresses ∧
        b.create { name := if fixName then Alias.safeName name else name, addresses, comment, tags } =
          (b', none) ∧
        b'.aliases.get? (if fixName then Alias.safeName name else name) = some stored ∧
        b.HasAdded stored d ran.2 := by
  intro ran
  have hcases (inv : Invocation) (hargs : readers.arguments args = .ok inv) :=
    run_cases hargs tools env users d
  have herror (e : Refusal) (he : readers.arguments args = .error e) : ran.2 = d := by
    simp only [ran, run, he]
    cases e <;> rfl
  refine ⟨fun hcode => ?_, herror, fun inv name texts comment tags fixName hargs haction hcode => ?_⟩
  · cases hargs : readers.arguments args with
    | error e => exact herror e hargs
    | ok inv =>
      rcases hcases inv hargs with ⟨-, hsame⟩ | ⟨complaints, b, text, d', -, -, hrun⟩
      · exact hsame
      · exact absurd (congrArg (fun left => left.1.code) hrun) hcode
  · rcases hcases inv hargs with ⟨hfailed, -⟩ | ⟨complaints, b, text, d', hprepare, hperform, hrun⟩
    · exact absurd (hfailed.symm.trans hcode) Nat.one_ne_zero
    · rw [haction] at hperform
      rw [show ran = _ from hrun]
      rcases add_cases b name texts comment tags fixName d with
        ⟨r, hadd⟩ | ⟨addresses, b', stored, d'', hread, hcreate, hstored, hadded, hadd⟩
      · cases hadd.symm.trans hperform
      · obtain rfl := (Prod.mk.inj (hadd.symm.trans hperform)).2
        exact ⟨complaints, b, addresses, b', stored, hprepare, hread, hcreate, hstored, hadded⟩

/-- An alias file whose last line is not finished. -/
def unfinishedDisk : Disk where
  files := [(["h".toList, ".config".toList, "addrbook".toList, "aliases".toList],
    Utf8.encode "alias work w@x.org".toList)]

theorem run_adds_after_unfinished :
    ∃ (env : Environment) (args : List Text),
      let ran := run Disk.access .standard .standard env [] args unfinishedDisk
      ran.1.code = 0 ∧
      ∃ complaints b addresses b' stored,
        prepare Disk.access .standard .standard env [] ⟨none, [], .add "jm".toList ["jm@x.de".toList]
          (some "né".toList) [] false⟩ unfinishedDisk = ((complaints, .ok b), unfinishedDisk) ∧
        readAddresses ["jm@x.de".toList] = .ok addresses ∧
        b.create { name := "jm".toList, addresses, comment := some "né".toList, tags := [] } =
          (b', none) ∧
        b'.aliases.get? "jm".toList = some stored ∧ b.HasAdded stored unfinishedDisk ran.2 := by
  have hinv : (Invocation.ofArguments
      (["add", "jm", "jm@x.de", "--comment", "né"].map String.toList)).toOption =
        some ⟨none, [], .add "jm".toList ["jm@x.de".toList] (some "né".toList) [] false⟩ := by
    decide +kernel
  have hcode : (run Disk.access .standard .standard { home := some "/h".toList } []
      (["add", "jm", "jm@x.de", "--comment", "né"].map String.toList) unfinishedDisk).1.code = 0 := by
    decide +kernel
  cases hargs : Invocation.ofArguments
      (["add", "jm", "jm@x.de", "--comment", "né"].map String.toList) with
  | error e =>
    rw [hargs] at hinv
    cases hinv
  | ok inv =>
    rw [hargs] at hinv
    obtain rfl := Option.some.inj hinv
    exact ⟨_, _, hcode,
      (run_all_or_nothing .standard .standard _ [] _ unfinishedDisk).2.2 _ _ _ _ _ _ hargs rfl hcode⟩

end CommandLine
end Recipients
