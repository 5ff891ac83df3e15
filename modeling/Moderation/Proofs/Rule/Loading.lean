import Mathlib.Tactic.Common
import Moderation.Rule.Loader

/-!
What loading does to a folder and what it gives. A file that is there is never changed, only bundled
files are added, and whatever comes out comes out again when the folder is loaded once more.
-/
namespace Moderation

/-- The files that a new server starts with: their names and their texts. -/
def bundled : List (String × String) :=
  (Loader.handlersFile, Defaults.handlers) ::
    Category.all.map fun c => (c.fileName, Defaults.rules c)

/-- What loading may do to a folder: it adds bundled files that are missing, if it may write at all. -/
structure Loader.Fills (l : Loader) (f f' : Folder) : Prop where
  kept : ∀ name e, f.find? name = some e → f'.find? name = some e
  added : ∀ name e, f.find? name = none → f'.find? name = some e →
    ∃ text, (name, text) ∈ bundled ∧ e = .text text
  unwritten : l.writeDefaults = false → f' = f

namespace Loader.Fills
variable {l : Loader} {f f' f'' : Folder}

theorem refl (l : Loader) (f : Folder) : l.Fills f f :=
  ⟨fun _ _ h => h, fun _ _ hn hs => absurd (hn.symm.trans hs) (by simp), fun _ => rfl⟩

theorem trans (h : l.Fills f f') (h' : l.Fills f' f'') : l.Fills f f'' where
  kept name e he := h'.kept name e (h.kept name e he)
  added name e hn he := by
    cases hm : f'.find? name with
    | none => exact h'.added name e hm he
    | some e' =>
      obtain rfl : e' = e := Option.some.inj ((h'.kept name e' hm).symm.trans he)
      exact h.added name e' hn hm
  unwritten hw := (h'.unwritten hw).trans (h.unwritten hw)

/-- A missing file is added with its own text. -/
theorem put {name text : String} (hw : l.writeDefaults = true) (hb : (name, text) ∈ bundled)
    (hn : f.find? name = none) : l.Fills f (f.put name (.text text)) where
  kept other e he := by
    have hne : other ≠ name := by
      rintro rfl
      simp [hn] at he
    rwa [Folder.find?_put_of_ne hne]
  added other e ho he := by
    by_cases hne : other = name
    · subst hne
      rw [Folder.find?_put] at he
      exact ⟨text, hb, (Option.some.inj he).symm⟩
    · rw [Folder.find?_put_of_ne hne, ho] at he
      cases he
  unwritten hw' := by simp [hw] at hw'

end Loader.Fills

namespace Load
variable {α β : Type}

/-- What a step comes to on a shelf. -/
def on (x : Load α) (s : Shelf) : Except LoadError α × Shelf := x.run.run s

@[simp] theorem on_pure (a : α) (s : Shelf) : on (pure a) s = (.ok a, s) := rfl

@[simp] theorem on_refuse (e : LoadError) (s : Shelf) :
    on (Loader.refuse e : Load α) s = (.error e, s) := rfl

@[simp] theorem on_say (entries : List LogEntry) (s : Shelf) :
    on (Loader.say entries) s = (.ok (), { s with log := s.log ++ entries }) := rfl

@[simp] theorem on_get (s : Shelf) : on (get : Load Shelf) s = (.ok s, s) := rfl

@[simp] theorem on_modify (f : Shelf → Shelf) (s : Shelf) :
    on (modify f : Load Unit) s = (.ok (), f s) := rfl

theorem on_bind (x : Load α) (g : α → Load β) (s : Shelf) :
    on (x >>= g) s = match on x s with
      | (.ok a, s') => on (g a) s'
      | (.error e, s') => (.error e, s') := by
  simp only [on, ExceptT.run_bind, StateT.run_bind]
  rcases x.run.run s with ⟨_ | a, s'⟩
  · simp [bind]
    rfl
  · simp [bind]

lemma exists_of_on_bind {x : Load α} {g : α → Load β} {s s' : Shelf} {b : β}
    (h : on (x >>= g) s = (.ok b, s')) :
    ∃ a t, on x s = (.ok a, t) ∧ on (g a) t = (.ok b, s') := by
  rw [on_bind] at h
  rcases hon : on x s with ⟨_ | a, t⟩ <;> rw [hon] at h
  · cases h
  · exact ⟨a, t, rfl, h⟩

/-- A step does to a folder what loading may do, and whatever else is added in the meantime, another
step comes to the same afterwards and does nothing to the folder. -/
structure Settles (l : Loader) (x y : Load α) : Prop where
  fills : ∀ s, l.Fills s.folder (on x s).2.folder
  again : ∀ s f, l.Fills (on x s).2.folder f →
    ∀ log, ∃ log', on y ⟨f, log⟩ = ((on x s).1, ⟨f, log'⟩)

namespace Settles
variable {l : Loader}

theorem pure (a : α) : Settles l (Pure.pure a) (Pure.pure a) :=
  ⟨fun s => .refl l s.folder, fun _ _ _ log => ⟨log, rfl⟩⟩

theorem refuse (e : LoadError) : Settles l (Loader.refuse e : Load α) (Loader.refuse e) :=
  ⟨fun s => .refl l s.folder, fun _ _ _ log => ⟨log, rfl⟩⟩

/-- What is logged does not matter. -/
theorem say (entries entries' : List LogEntry) :
    Settles l (Loader.say entries) (Loader.say entries') :=
  ⟨fun s => .refl l s.folder, fun _ _ _ log => ⟨log ++ entries', rfl⟩⟩

theorem bind {x y : Load α} {g k : α → Load β} (hx : Settles l x y)
    (hg : ∀ a, Settles l (g a) (k a)) : Settles l (x >>= g) (y >>= k) where
  fills s := by
    have hfirst := hx.fills s
    rw [on_bind]
    rcases hon : on x s with ⟨_ | a, t⟩ <;> rw [hon] at hfirst
    · exact hfirst
    · exact hfirst.trans ((hg a).fills t)
  again s f hf log := by
    have hfirst := hx.again s f
    simp only [on_bind] at hf ⊢
    rcases hon : on x s with ⟨e | a, t⟩ <;> simp only [hon] at hf hfirst ⊢
    · obtain ⟨log', hy⟩ := hfirst hf log
      exact ⟨log', by rw [hy]⟩
    · -- the first step leaves alone what the second one added
      obtain ⟨log', hy⟩ := hfirst (((hg a).fills t).trans hf) log
      rw [hy]
      exact (hg a).again t f hf log'

end Settles

end Load

namespace Loader
open Load
variable {l l' : Loader} {name default : String} {s : Shelf}

/-- What a file of a folder counts as: its text, or nothing if it is missing and not to be written. -/
structure Finds (l : Loader) (f : Folder) (name : String) (text : Option String) : Prop where
  entry : f.find? name = text.map .text
  unwritten : text = none → l.writeDefaults = false

lemma Finds.of_fills {f f' : Folder} {text : Option String} (h : l.Finds f name text)
    (hf : l.Fills f f') : l.Finds f' name text := by
  refine ⟨?_, h.unwritten⟩
  cases text with
  | none => rw [hf.unwritten (h.unwritten rfl), h.entry]
  | some text => exact hf.kept name _ h.entry

lemma on_read_of_other {e : FolderEntry} (h : s.folder.find? name = some e)
    (he : ∀ text, e ≠ .text text) : on (l.read name default) s = (.error (.io name), s) := by
  cases e with
  | text text => exact absurd rfl (he text)
  | binary | folder => simp only [read, on_bind, on_get, h, on_refuse]

lemma on_read_of_finds {text : Option String} (h : l.Finds s.folder name text)
    (hl : l'.writeDefaults = true → l.writeDefaults = true) (default : String) :
    ∃ log, on (l'.read name default) s = (.ok text, ⟨s.folder, log⟩) := by
  have hentry := h.entry
  cases text with
  | some text => exact ⟨s.log, by simp only [read, on_bind, on_get, hentry, Option.map, on_pure]⟩
  | none =>
    have hw : l'.writeDefaults = false := by
      simpa [h.unwritten rfl] using hl
    simp only [read, on_bind, on_get, hentry, Option.map, hw, Bool.false_eq_true, if_false, on_say,
      on_pure]
    exact ⟨_, rfl⟩

/-- A file is read as what it counts as afterwards, or it is there and is not a text. -/
lemma on_read (hb : (name, default) ∈ bundled) (s : Shelf) :
    (∃ text t, on (l.read name default) s = (.ok text, t) ∧ l.Finds t.folder name text ∧
      l.Fills s.folder t.folder) ∨
    ∃ e, s.folder.find? name = some e ∧ (∀ text, e ≠ .text text) ∧
      on (l.read name default) s = (.error (.io name), s) := by
  cases hfind : s.folder.find? name with
  | none =>
    left
    cases hw : l.writeDefaults with
    | false =>
      have hfinds : l.Finds s.folder name none := ⟨hfind, fun _ => hw⟩
      obtain ⟨log, hr⟩ := on_read_of_finds hfinds id default
      exact ⟨none, _, hr, hfinds, .refl l s.folder⟩
    | true =>
      simp only [read, on_bind, on_get, hfind, hw, if_true, on_modify, on_say, on_pure]
      exact ⟨_, _, rfl, ⟨Folder.find?_put .., by simp⟩, .put hw hb hfind⟩
  | some e =>
    cases e with
    | text text =>
      have hfinds : l.Finds s.folder name (some text) := ⟨hfind, by simp⟩
      obtain ⟨log, hr⟩ := on_read_of_finds hfinds id default
      exact .inl ⟨some text, _, hr, hfinds, .refl l s.folder⟩
    | binary | folder =>
      exact .inr ⟨_, rfl, by simp, on_read_of_other hfind (by simp)⟩

lemma settles_read (hl : l'.writeDefaults = true → l.writeDefaults = true)
    (hb : (name, default) ∈ bundled) :
    Settles l (l.read name default) (l'.read name default) where
  fills s := by
    obtain ⟨text, t, hr, -, hfills⟩ | ⟨e, -, -, hr⟩ := on_read (l := l) hb s <;> rw [hr]
    · exact hfills
    · exact .refl l s.folder
  again s f hf log := by
    obtain ⟨text, t, hr, hfinds, -⟩ | ⟨e, hfind, he, hr⟩ := on_read (l := l) hb s <;>
      rw [hr] at hf ⊢
    · exact on_read_of_finds (s := ⟨f, log⟩) (hfinds.of_fills hf) hl default
    · exact ⟨log, on_read_of_other (hf.kept name e hfind) he⟩

theorem handlers_mem_bundled : (handlersFile, Defaults.handlers) ∈ bundled := List.mem_cons_self

theorem rules_mem_bundled (c : Category) : (c.fileName, Defaults.rules c) ∈ bundled :=
  List.mem_cons_of_mem _ (List.mem_map_of_mem (Category.mem_all c))

lemma settles_liftExcept {α : Type} (r : Except LoadError α) :
    Settles l (loadHandlers.liftExcept r) (loadHandlers.liftExcept r) := by
  cases r with
  | ok a => exact .pure a
  | error e => exact .refuse e

lemma settles_loadHandlers (hl : l'.writeDefaults = true → l.writeDefaults = true) :
    Settles l l.loadHandlers l'.loadHandlers := by
  refine .bind (settles_read hl handlers_mem_bundled) fun text => ?_
  cases text with
  | none => exact .pure _
  | some text => exact settles_liftExcept _

lemma settles_loadCategory (hl : l'.writeDefaults = true → l.writeDefaults = true)
    (handlers : Registry) (c : Category) :
    Settles l (l.loadCategory handlers c) (l'.loadCategory handlers c) := by
  refine .bind (settles_read hl (rules_mem_bundled c)) fun text => ?_
  cases text with
  | none => exact .pure _
  | some text =>
    refine .bind (.say _ _) fun _ => ?_
    cases readRules c handlers text with
    | ok rules => exact .pure rules
    | error e => exact .refuse e

lemma settles_loadCategories (hl : l'.writeDefaults = true → l.writeDefaults = true)
    (handlers : Registry) (cs : List Category) (set : RuleSet) :
    Settles l (l.loadCategories handlers cs set) (l'.loadCategories handlers cs set) := by
  induction cs generalizing set with
  | nil => exact .pure _
  | cons c cs ih =>
    refine .bind (settles_loadCategory hl handlers c) fun rules => ?_
    cases set.insert c rules with
    | ok set => exact ih set
    | error e => exact .refuse e

lemma settles_load (hl : l'.writeDefaults = true → l.writeDefaults = true) :
    Settles l l.load l'.load :=
  .bind (settles_loadHandlers hl) fun handlers =>
    .bind (settles_loadCategories hl handlers Category.all {}) fun _ =>
      .bind (.say _ _) fun _ => .pure _

lemma finds_of_read {t : Shelf} {text : Option String} (hb : (name, default) ∈ bundled)
    (h : on (l.read name default) s = (.ok text, t)) : l.Finds t.folder name text := by
  obtain ⟨text, t, hr, hfinds, -⟩ | ⟨e, -, -, hr⟩ := on_read (l := l) hb s
  · cases hr.symm.trans h
    exact hfinds
  · cases hr.symm.trans h

/-- The handlers that a folder gives: those of their file, or none if it is missing. -/
def GivesHandlers (l : Loader) (f : Folder) (handlers : Registry) : Prop :=
  ∃ text, l.Finds f handlersFile text ∧
    text.elim (.ok {}) (Registry.ofText handlersFile) = .ok handlers

/-- The rules that a folder gives for a category: those of its file, or none if it is missing. -/
def GivesRules (l : Loader) (f : Folder) (handlers : Registry) (c : Category)
    (rules : List Rule) : Prop :=
  ∃ text, l.Finds f c.fileName text ∧ text.elim (.ok []) (readRules c handlers) = .ok rules

lemma GivesHandlers.of_fills {f f' : Folder} {handlers : Registry} (h : l.GivesHandlers f handlers)
    (hf : l.Fills f f') : l.GivesHandlers f' handlers :=
  h.imp fun _ ⟨hfinds, hof⟩ => ⟨hfinds.of_fills hf, hof⟩

lemma GivesRules.of_fills {f f' : Folder} {handlers : Registry} {c : Category} {rules : List Rule}
    (h : l.GivesRules f handlers c rules) (hf : l.Fills f f') : l.GivesRules f' handlers c rules :=
  h.imp fun _ ⟨hfinds, hof⟩ => ⟨hfinds.of_fills hf, hof⟩

lemma givesHandlers_of_loadHandlers {t : Shelf} {handlers : Registry}
    (h : on l.loadHandlers s = (.ok handlers, t)) : l.GivesHandlers t.folder handlers := by
  obtain ⟨text, t', hread, hrest⟩ := exists_of_on_bind h
  have hfinds := finds_of_read handlers_mem_bundled hread
  cases text with
  | none =>
    cases hrest
    exact ⟨none, hfinds, rfl⟩
  | some text =>
    simp only at hrest
    cases hof : Registry.ofText handlersFile text <;> rw [hof] at hrest <;> cases hrest
    exact ⟨some text, hfinds, hof⟩

lemma givesRules_of_loadCategory {t : Shelf} {handlers : Registry} {c : Category}
    {rules : List Rule} (h : on (l.loadCategory handlers c) s = (.ok rules, t)) :
    l.GivesRules t.folder handlers c rules := by
  obtain ⟨text, t', hread, hrest⟩ := exists_of_on_bind h
  have hfinds := finds_of_read (rules_mem_bundled c) hread
  cases text with
  | none =>
    cases hrest
    exact ⟨none, hfinds, rfl⟩
  | some text =>
    obtain ⟨⟨⟩, t'', hsay, hrest⟩ := exists_of_on_bind hrest
    cases hsay
    cases hof : readRules c handlers text <;> rw [hof] at hrest <;> cases hrest
    exact ⟨some text, hfinds, hof⟩

/-- Categories that are loaded come to what the folder gives, and the others stay as they are. -/
lemma gives_of_loadCategories {handlers : Registry} {cs : List Category} (hcs : cs.Nodup)
    {set set' : RuleSet} {t : Shelf}
    (h : on (l.loadCategories handlers cs set) s = (.ok set', t)) :
    (∀ c ∈ cs, set'.contains c = true ∧ l.GivesRules t.folder handlers c (set'.get c)) ∧
      ∀ c ∉ cs, set'.contains c = set.contains c ∧ set'.get c = set.get c := by
  induction cs generalizing set s with
  | nil =>
    cases h
    simp
  | cons c cs ih =>
    obtain ⟨hc, hcs⟩ := List.nodup_cons.1 hcs
    obtain ⟨rules, t', hload, hrest⟩ := exists_of_on_bind h
    cases hins : set.insert c rules with
    | error e =>
      rw [hins] at hrest
      cases hrest
    | ok set₁ =>
      rw [hins] at hrest
      obtain ⟨hin, hout⟩ := ih hcs hrest
      have hfills : l.Fills t'.folder t.folder := by
        have h := (settles_loadCategories (l := l) id handlers cs set₁).fills t'
        rwa [hrest] at h
      refine ⟨List.forall_mem_cons.2 ⟨?_, hin⟩, fun d hd => ?_⟩
      · -- the rest of the loading leaves the category and its file alone
        rw [(hout c hc).1, (hout c hc).2, RuleSet.contains_insert hins, RuleSet.get_insert hins]
        simpa using (givesRules_of_loadCategory hload).of_fills hfills
      · have hdc : d ≠ c := List.ne_of_not_mem_cons hd
        have hd : d ∉ cs := List.not_mem_of_not_mem_cons hd
        rw [(hout d hd).1, (hout d hd).2, RuleSet.contains_insert hins, RuleSet.get_insert hins]
        simp [hdc]

/-- What a folder gives: the handlers of its file, and for every category the rules of its file. -/
structure Gives (l : Loader) (f : Folder) (handlers : Registry) (set : RuleSet) : Prop where
  fromFile : l.GivesHandlers f handlers
  contained : ∀ c, set.contains c = true
  rules : ∀ c, l.GivesRules f handlers c (set.get c)

lemma gives_of_load {set : RuleSet} {t : Shelf} (h : on l.load s = (.ok set, t)) :
    ∃ handlers, l.Gives t.folder handlers set := by
  obtain ⟨handlers, t₁, hhandlers, hrest⟩ := exists_of_on_bind h
  obtain ⟨set, t₂, hrules, hrest⟩ := exists_of_on_bind hrest
  cases hrest
  have hfills : l.Fills t₁.folder t₂.folder := by
    have h := (settles_loadCategories (l := l) id handlers Category.all {}).fills t₁
    rwa [hrules] at h
  have hgives := (gives_of_loadCategories Category.nodup_all hrules).1
  exact ⟨handlers, (givesHandlers_of_loadHandlers hhandlers).of_fills hfills,
    fun c => (hgives c (Category.mem_all c)).1, fun c => (hgives c (Category.mem_all c)).2⟩

/-- What loading a folder comes to, and the folder as it is then. -/
def loaded (l : Loader) (f : Folder) : Except LoadError RuleSet × Folder :=
  let (result, s) := on l.load ⟨f, []⟩
  (result, s.folder)

/-- Loading only adds bundled files that are missing, what it gives is what the files of the folder
say, and a loader that writes no more than this one comes to the same with the folder as it is then. -/
theorem loaded_folder (l : Loader) (f : Folder) :
    l.Fills f (l.loaded f).2 ∧
      (∀ set, (l.loaded f).1 = .ok set → ∃ handlers, l.Gives (l.loaded f).2 handlers set) ∧
      ∀ l' : Loader, (l'.writeDefaults = true → l.writeDefaults = true) →
        l'.loaded (l.loaded f).2 = l.loaded f := by
  refine ⟨(settles_load (l := l) id).fills ⟨f, []⟩, fun set hset => ?_, fun l' hl => ?_⟩
  · exact gives_of_load (t := (on l.load ⟨f, []⟩).2) (Prod.ext hset rfl)
  · obtain ⟨log, hagain⟩ := (settles_load hl).again ⟨f, []⟩ _ (.refl l _) []
    unfold loaded
    rw [hagain]

/-- A folder with one file of rules and another file, loaded without writing. -/
theorem loaded_folder_of_chat :
    let l : Loader := { path := "rules", writeDefaults := false }
    let f : Folder := ⟨[("chat.txt", .text "match a\nthen deny"), ("notes.txt", .binary 3)]⟩
    let set : RuleSet := ⟨[(.packet, []), (.sign, []), (.command, []),
      (.chat, [{ pattern := "a", cancels := true }]), (.general, [])]⟩
    (l.loaded f).1 = .ok set ∧ (l.loaded f).2 = f ∧ ∃ handlers, l.Gives f handlers set := by
  intro l f set
  have hset : (l.loaded f).1 = .ok set := by decide +kernel
  have hsame : (l.loaded f).2 = f := by decide +kernel
  exact ⟨hset, hsame, hsame ▸ (loaded_folder l f).2.1 set hset⟩

end Loader

end Moderation
