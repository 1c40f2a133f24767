import Storyline.Play.BuiltIn
import Storyline.Proofs.Session.Sanity
import Storyline.Proofs.Store.Spelling

/-!
# Where sanity starts

A configuration seeds `sanity` in any case: what its text leaves out is added with the value 100.
But it is added where the plain key is missing, and the text may have sanity under another
spelling, for instance `Sanity`. Both then meet in the store, where the last spelling counts. The
authored value is used if its key comes behind the plain one, as does a key with blanks at its end;
it is lost if its key comes before the plain one, as do all keys that begin with a capital letter.

`Config.getInt_sanity` says where sanity starts for every text that can be read. What the text
says, its reader delivers, and the reader may be any.
-/

namespace Storyline

/-- Where seeds put sanity when they are completed: at the value under the last spelling, unless
this spelling comes before the plain one, and at 100 otherwise. -/
def Seeds.sanity (authored : Seeds) : Int32 :=
  ((authored.contents.ints.lastSpelling? "sanity").filter ("sanity" ≤ ·.1)).elim 100 (·.2)

namespace Config

variable {parse : String → Except String Config} {text : String} {config : Config}

/-- A configuration has the seeds that the reader of its text delivers, completed. -/
theorem exists_authored (h : ofText parse text = .ok config) :
    ∃ authored, parse text = .ok authored ∧ config.seeds = authored.seeds.withSanity := by
  rw [ofText] at h
  rcases hparse : parse text with message | authored
  · rw [hparse] at h
    cases h
  · rw [hparse] at h
    cases h
    exact ⟨authored, rfl, rfl⟩

/-- The store that a game with this configuration starts from. -/
def store (config : Config) : Store := (Store.ofSeeds config.seeds : Told Change Store).value

/-- Sanity starts where completed seeds put it, within its bounds. -/
theorem getInt_sanity {authored : Seeds} (h : config.seeds = authored.withSanity) :
    config.store.getInt "sanity" = clampBy config.store.rules "sanity" authored.sanity := by
  have hints : config.store.contents.ints =
      (authored.contents.ints.insertIfAbsent "sanity" 100).settle (clampBy config.store.rules) := by
    rw [store, Store.contents_ofSeeds, h]
    rfl
  rw [Store.getInt_of_normal Store.normalizeKey?_sanity, hints, KeyMap.get?_settle,
    KeyMap.lastSpelling?_insertIfAbsent Store.normalizeKey?_sanity, Option.map_some,
    Option.getD_some, Seeds.sanity]
  cases (authored.contents.ints.lastSpelling? "sanity").filter ("sanity" ≤ ·.1) <;> rfl

/-- Sanity starts where one of its authored spellings puts it, or at 100 if there is none. -/
def SanityHonoured (authored : Seeds) (s : Store) : Prop :=
  let spellings := authored.contents.ints.spellings "sanity"
  (spellings = [] → s.getInt "sanity" = clampBy s.rules "sanity" 100) ∧
    (spellings ≠ [] → ∃ e ∈ spellings, s.getInt "sanity" = clampBy s.rules "sanity" e.2)

/-- For every text that can be read, whatever reads it, sanity starts where the seeds of the text
put it. This is where one of its spellings puts it, unless the last of them comes before the plain
one. -/
theorem starting_sanity (h : ofText parse text = .ok config) :
    ∃ authored : Config, parse text = .ok authored ∧
      config.store.getInt "sanity" =
        clampBy config.store.rules "sanity" authored.seeds.sanity ∧
      ((∀ e, authored.seeds.contents.ints.lastSpelling? "sanity" = some e → "sanity" ≤ e.1) →
        SanityHonoured authored.seeds config.store) := by
  obtain ⟨authored, hauthored, hseeds⟩ := exists_authored h
  have hstart := getInt_sanity hseeds
  refine ⟨authored, hauthored, hstart, fun hlast ↦ ?_⟩
  rw [SanityHonoured, hstart, Seeds.sanity]
  constructor
  · intro hnone
    rw [KeyMap.lastSpelling?, hnone]
    rfl
  · intro hsome
    let e := (authored.seeds.contents.ints.spellings "sanity").getLast hsome
    have he : authored.seeds.contents.ints.lastSpelling? "sanity" = some e :=
      List.getLast?_eq_some_getLast hsome
    refine ⟨e, List.getLast_mem hsome, ?_⟩
    simp [he, Option.filter_some, hlast e he]

/-- Three spellings of sanity, the last of them with a blank at its end, and a rule for it. -/
def threefold : String :=
  "[store.ints]\nSanity = 80\n\"sanity \" = 130\nsanity = 20\n" ++
    "[[store.clamps]]\nkey = \"SANITY\"\nmin = 10\nmax = 90\n"

/-- From the last of them sanity starts, within its bounds. -/
theorem starting_sanity_threefold :
    ∃ config authored, ofText Play.Libraries.builtIn.readConfig threefold = .ok config ∧
      Play.Libraries.builtIn.readConfig threefold = .ok authored ∧
      config.store.getInt "sanity" = 90 ∧ authored.seeds.sanity = 130 ∧
      SanityHonoured authored.seeds config.store := by
  let seeds : Seeds :=
    { contents := { ints := .ofList [("Sanity", 80), ("sanity", 20), ("sanity ", 130)] }
      bounds := [⟨"SANITY", 10, 90⟩] }
  have hread : Play.Libraries.builtIn.readConfig threefold = .ok { seeds } :=
    Play.Libraries.readConfig_builtIn (by decide +kernel)
  have hcomplete : seeds.withSanity = seeds := by decide +kernel
  have hconfig : ofText Play.Libraries.builtIn.readConfig threefold = .ok { seeds } := by
    rw [ofText, hread, Except.map, hcomplete]
  obtain ⟨authored, hauthored, -, hhonoured⟩ := starting_sanity hconfig
  cases hread.symm.trans hauthored
  refine ⟨_, _, hconfig, hread, by decide +kernel, by decide +kernel, hhonoured ?_⟩
  have hlast : seeds.contents.ints.lastSpelling? "sanity" = some ("sanity ", 130) := by
    decide +kernel
  rintro e he
  rw [hlast] at he
  cases he
  decide

/-- The text of a configuration in which sanity is seeded under another spelling. -/
def capital : String := "[store.ints]\nSanity = 80\n"

/-- The value that it gives is not honoured: sanity starts at 100. -/
theorem not_sanityHonoured_capital :
    ¬∀ (parse : String → Except String Config) (text : String) (config authored : Config),
      ofText parse text = .ok config → parse text = .ok authored →
        SanityHonoured authored.seeds config.store := by
  intro h
  let seeds : Seeds := { contents := { ints := .ofList [("Sanity", 80)] } }
  have hread : Play.Libraries.builtIn.readConfig capital = .ok { seeds } :=
    Play.Libraries.readConfig_builtIn (by decide +kernel)
  have hconfig : ofText Play.Libraries.builtIn.readConfig capital =
      .ok { seeds := seeds.withSanity } := by
    rw [ofText, hread]
    rfl
  obtain ⟨-, hhonoured⟩ := h _ _ _ _ hconfig hread
  have hspellings : seeds.contents.ints.spellings "sanity" = [("Sanity", 80)] := by decide +kernel
  obtain ⟨e, he, hstart⟩ := hhonoured (by simp [hspellings])
  rw [hspellings, List.mem_singleton] at he
  subst he
  revert hstart
  decide +kernel

end Config

end Storyline
