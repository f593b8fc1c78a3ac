/-
  The mock name generator: `internal/mock/names.go`.

  A name is three words joined by dashes, each drawn from a list with eight random bytes.  `generate`
  tries a thousand random names; when all of them are in use it draws one more, the root, and counts
  up the suffixes `-001`, `-002`, ... until one is free or `-999` is taken too.  Applications and
  devices use the same words in two orders, so the two generators compete for the same names.

  1. **Program** - the functions of the source.  The random reads are a stream that may fail at any
     place; the suffix loop has no bound in the source, so it runs on fuel here and 999 rounds are
     shown to be enough.

  2. **Abstraction** - a call whose reads succeed is a first-fit choice (`FirstFit.choose`) from its
     1000 random names followed by the 999 suffixed forms of the root drawn after them
     (`generate_eq_choose`).

  3. **Sessions** - any sequence of calls, from either generator and with any draws, is a chain of
     first-fit choices, so no name comes twice and none was in use before.
-/
import ChirpStackSimulator.Lib.FirstFit

namespace ChirpStackSimulator

open FirstFit

namespace MockNames

/-! ## The word lists -/

/-- `adjectives`. -/
def adjectives : List String :=
  ["abundant", "acidic", "aged", "amber", "ancient", "arctic", "autumn", "azure", "bitter",
    "blazing", "bold", "brass", "brave", "bright", "broad", "bronze", "calm", "candid", "cobalt",
    "copper", "cosmic", "crisp", "crispy", "crimson", "curly", "cursed", "dapper", "daring", "dark",
    "dawn", "delicate", "dense", "dim", "distant", "dizzy", "drifting", "dusky", "eager", "early",
    "earthy", "eastern", "echo", "edge", "elder", "electric", "emerald", "empty", "epic", "eternal",
    "even", "faded", "faint", "fair", "fallen", "fancy", "fast", "feathered", "fierce", "fiery",
    "filtered", "first", "flaming", "flaxen", "flickering", "flying", "foggy", "forest", "frosty",
    "frozen", "future", "gentle", "ghostly", "giant", "glacial", "glaring", "glass", "glimmering",
    "golden", "grand", "granite", "gray", "great", "green", "happy", "harsh", "haunted", "heavy",
    "hidden", "high", "hollow", "humble", "icy", "indigo", "inland", "iron", "ivory", "jade",
    "jasper", "jet", "keen", "knotted", "lambent", "lateral", "leaden", "lichen", "lightning",
    "lively", "lunar", "marble", "marigold", "meadow", "melted", "molten", "morning", "mossy",
    "muted", "neon", "nimble", "noble", "northern", "obsidian", "oceanic", "opal", "primal", "pure",
    "quartz", "quiet"]

/-- `helperAdjectives`. -/
def helperAdjectives : List String :=
  ["alabaster", "alder", "alien", "amber", "angled", "arctic", "ashen", "aspen", "aurora",
    "autumn", "baltic", "barren", "basalt", "birch", "blazing", "blended", "blistered", "bold",
    "boreal", "brazen", "broken", "bronze", "buckling", "buried", "burnished", "canyon", "carved",
    "cascading", "cedar", "ceramic", "chalk", "charged", "chilled", "chrome", "cinder", "circuit",
    "cobalt", "comet", "copper", "coral", "crimson", "crisp", "crystal", "cyber", "dapper",
    "darkling", "dawned", "delta", "distant", "drifting", "dusty", "ebony", "echoing", "elder",
    "ember", "emerald", "endless", "etched", "eternal", "evening", "feathered", "flickering",
    "flooded", "flying", "forged", "fossil", "frosty", "frozen", "gilded", "glacial", "glass",
    "glimmering", "golden", "granite", "hallowed", "harsh", "heated", "hidden", "highland",
    "hollow", "icy", "indigo", "inland", "iron", "ivory", "jade", "jasper", "jet", "keen",
    "knotted", "lambent", "lateral", "leaden", "lichen", "lightning", "lithe", "lively", "long",
    "lunar", "magnetic", "marble", "marigold", "meadow", "melted", "molten", "morning", "mossy",
    "muted", "neon", "nimble", "noble", "northern", "obsidian", "oceanic", "onyx", "opal", "orange"]

/-- `nouns`. -/
def nouns : List String :=
  ["albatross", "antelope", "ape", "armadillo", "badger", "barracuda", "basilisk", "bear",
    "beaver", "bison", "boar", "bobcat", "buck", "buffalo", "bulldog", "camel", "canary", "caribou",
    "cat", "cheetah", "chimpanzee", "chinchilla", "cobra", "condor", "cougar", "coyote", "crane",
    "crocodile", "crow", "deer", "dingo", "dolphin", "donkey", "dove", "dragonfly", "duck", "eagle",
    "eel", "elephant", "elk", "emu", "falcon", "ferret", "finch", "flamingo", "fly", "fox",
    "gazelle", "gecko", "gerbil", "giraffe", "goat", "goose", "gorilla", "gull", "hamster", "hare",
    "hawk", "hedgehog", "heron", "hippo", "horse", "hyena", "iguana", "impala", "jackal", "jaguar",
    "kangaroo", "kestrel", "koala", "lemur", "leopard", "lion", "lizard", "llama", "lobster",
    "lynx", "magpie", "mallard", "mink", "mole", "mongoose", "monkey", "moose", "moth", "mouse",
    "mule", "narwhal", "newt", "ocelot", "octopus", "ostrich", "otter", "owl", "panda", "panther",
    "parrot", "peacock", "pelican", "penguin", "pheasant", "pig", "platypus", "porcupine", "quail",
    "rabbit", "raccoon", "raven", "reindeer", "rhino", "salamander", "salmon", "scorpion", "seal",
    "shark", "sheep", "shrew", "skunk", "sloth", "snail", "snake", "sparrow", "spider", "squid",
    "squirrel", "stingray", "stork", "swallow", "swan", "tapir", "tiger", "toad", "toucan",
    "turkey", "turtle", "viper", "vulture", "walrus", "warthog", "wasp", "weasel", "whale", "wolf",
    "wolverine", "wombat", "woodpecker", "worm", "wren", "yak", "zebra", "asteroid", "comet",
    "eclipse", "galaxy", "horizon", "meteor", "nebula", "orbit", "planet", "quasar", "satellite",
    "star", "telescope", "beacon"]

/-- `maxRetries`: how many random names are tried before the suffixes. -/
def maxRetries : ℕ := 1000

/-- `suffixWidth`: the zero padding of a suffix. -/
def suffixWidth : ℕ := 3

/-- `UsedNames`: the keys of the map, all of them stored as `true`.  A nil map is `none` wherever
    a function takes one. -/
abbrev UsedNames := Finset String

/-! ## Random draws -/

/-- What `rand.Read` does, read after read. -/
abbrev Rand := ℕ → Except String (Vector UInt8 8)

/-- A computation that draws from the stream and may fail. -/
abbrev Draw := ExceptT String (StateM Rand)

/-- The next eight random bytes. -/
def readRand : Draw (Vector UInt8 8) := do
  let rand ← get
  set fun n => rand (n + 1)
  match rand 0 with
  | .ok buf => return buf
  | .error err => throw ("mock: read random: " ++ err)

/-- `binary.BigEndian.Uint64`. -/
def bigEndianUint64 (buf : Vector UInt8 8) : ℕ :=
  buf.toList.foldl (fun acc byte => acc * 256 + byte.toNat) 0

/-- `intInRange`: a random integer of `[min, max)`. -/
def intInRange (min max : ℤ) : Draw ℤ := do
  if max ≤ min then
    throw ("mock: invalid range [" ++ toString min ++ ", " ++ toString max ++ ")")
  let span := (max - min).toNat
  let buf ← readRand
  let r := bigEndianUint64 buf % span
  return min + r

/-- `pickWord`: a random word of the list; the index is always in range. -/
def pickWord (words : List String) : Draw String := do
  if words.length = 0 then
    throw "mock: empty word list"
  let idx ← intInRange 0 words.length
  return words.getD idx.toNat ""

/-- `compose`: the three words joined by dashes. -/
def compose (a b c : String) : String := a ++ "-" ++ b ++ "-" ++ c

/-- Three words, one from each list, as both phases of `generate` draw them. -/
def drawName (a b c : List String) : Draw String := do
  let w1 ← pickWord a
  let w2 ← pickWord b
  let w3 ← pickWord c
  return compose w1 w2 w3

/-! ## `generate` -/

/-- The first phase: random names until one is free or the tries are used up. -/
def randomPhase (used : UsedNames) (a b c : List String) : ℕ → Draw (Option String)
  | 0 => return none
  | tries + 1 => do
    let candidate ← drawName a b c
    if candidate ∉ used then return some candidate
    randomPhase used a b c tries

/-- `fmt.Sprintf("%s-%0*d", root, suffixWidth, i)`. -/
def suffixed (root : String) (i : ℕ) : String :=
  root ++ "-" ++ String.ofList ((toString i).toList.leftpad suffixWidth '0')

/-- The message of a call that found no name. -/
def exhausted (root : String) : String := "mock: ad alanı tükendi (root=" ++ root ++ ")"

example : suffixed "crispy-amber-falcon" 7 = "crispy-amber-falcon-007" := by decide

/-- The second phase, from suffix `i` on: `none` when the fuel runs out first. -/
def suffixPhase (used : UsedNames) (root : String) : ℕ → ℕ → Option (Except String String)
  | 0, _ => none
  | fuel + 1, i =>
    let candidate := suffixed root i
    if candidate ∉ used then some (.ok candidate)
    else if i = 999 then some (.error (exhausted root))
    else suffixPhase used root fuel (i + 1)

/-- What a call returns and the caller's set after it: the name it found is put in the map.  A nil
    map is replaced by one of the call's own, so the caller never sees the name in it. -/
def keep (used : Option UsedNames) : Except String String → Except String String × Option UsedNames
  | .ok candidate => (.ok candidate, used.map (insert candidate))
  | .error err => (.error err, used)

/-- `generate`: the random phase, and the suffixes of one more name when it finds nothing. -/
def generate (fuel : ℕ) (used : Option UsedNames) (a b c : List String) (rand : Rand) :
    Option (Except String String × Option UsedNames) :=
  let names := used.getD ∅
  match (randomPhase names a b c maxRetries).run.run rand with
  | (.error err, _) => some (keep used (.error err))
  | (.ok (some candidate), _) => some (keep used (.ok candidate))
  | (.ok none, rand) =>
    match (drawName a b c).run.run rand with
    | (.error err, _) => some (keep used (.error err))
    | (.ok root, _) => (suffixPhase names root fuel 1).map (keep used)

/-- `GenerateAppName`: `<adj>-<helper>-<noun>`. -/
def generateAppName (fuel : ℕ) (used : Option UsedNames) (rand : Rand) :
    Option (Except String String × Option UsedNames) :=
  generate fuel used adjectives helperAdjectives nouns rand

/-- `GenerateDeviceName`: `<helper>-<adj>-<noun>`. -/
def generateDeviceName (fuel : ℕ) (used : Option UsedNames) (rand : Rand) :
    Option (Except String String × Option UsedNames) :=
  generate fuel used helperAdjectives adjectives nouns rand

/-- `SeedFromStrings`: put the non-empty names in the set; nothing happens to a nil map. -/
def seedFromStrings (used : Option UsedNames) (names : List String) : Option UsedNames :=
  used.map fun used =>
    names.foldl (fun used n => if n ≠ "" then insert n used else used) used

/-! ## Calls whose reads succeed -/

/-- The random bytes of a call, read after read. -/
abbrev Reads := ℕ → Vector UInt8 8

/-- The stream whose reads all succeed. -/
def succeeding (reads : Reads) : Rand := fun n => .ok (reads n)

/-- The bytes left after `k` reads. -/
def Reads.drop (k : ℕ) (reads : Reads) : Reads := fun n => reads (n + k)

/-- The word that eight bytes select. -/
def wordAt (words : List String) (buf : Vector UInt8 8) : String :=
  words.getD (bigEndianUint64 buf % words.length) ""

/-- The name that the draws number `i` make: three reads each. -/
def nameAt (a b c : List String) (reads : Reads) (i : ℕ) : String :=
  compose (wordAt a (reads (3 * i))) (wordAt b (reads (3 * i + 1))) (wordAt c (reads (3 * i + 2)))

theorem nameAt_drop (a b c : List String) (reads : Reads) (i : ℕ) :
    nameAt a b c (reads.drop 3) i = nameAt a b c reads (i + 1) := by
  unfold nameAt Reads.drop
  rw [show 3 * (i + 1) = 3 * i + 3 by omega, show 3 * i + 3 + 1 = 3 * i + 1 + 3 by omega,
    show 3 * i + 3 + 2 = 3 * i + 2 + 3 by omega]

/-- A computation after one that returns `v` runs on what that one left of the stream. -/
theorem run_bind_ok {α β : Type} {x : Draw α} {f : α → Draw β} {rand rand' : Rand} {v : α}
    (h : x.run.run rand = (.ok v, rand')) : (x >>= f).run.run rand = (f v).run.run rand' := by
  rw [ExceptT.run_bind, StateT.run_bind, h]
  rfl

theorem readRand_succeeding (reads : Reads) :
    readRand.run.run (succeeding reads) = (.ok (reads 0), succeeding (reads.drop 1)) := rfl

theorem intInRange_succeeding {n : ℕ} (hn : n ≠ 0) (reads : Reads) :
    (intInRange 0 n).run.run (succeeding reads)
      = (.ok ((bigEndianUint64 (reads 0) % n : ℕ) : ℤ), succeeding (reads.drop 1)) := by
  have hspan : ¬ (n : ℤ) ≤ 0 := by omega
  unfold intInRange
  rw [if_neg hspan]
  refine (run_bind_ok (readRand_succeeding reads)).trans ?_
  show (Except.ok _, _) = (Except.ok _, _)
  simp

theorem pickWord_succeeding {words : List String} (hwords : words ≠ []) (reads : Reads) :
    (pickWord words).run.run (succeeding reads)
      = (.ok (wordAt words (reads 0)), succeeding (reads.drop 1)) := by
  have hlen : words.length ≠ 0 := fun h => hwords (List.length_eq_zero_iff.mp h)
  unfold pickWord
  rw [if_neg hlen]
  refine (run_bind_ok (intInRange_succeeding hlen reads)).trans ?_
  rfl

theorem drawName_succeeding {a b c : List String} (ha : a ≠ []) (hb : b ≠ []) (hc : c ≠ [])
    (reads : Reads) :
    (drawName a b c).run.run (succeeding reads)
      = (.ok (nameAt a b c reads 0), succeeding (reads.drop 3)) := by
  unfold drawName
  rw [run_bind_ok (pickWord_succeeding ha reads), run_bind_ok (pickWord_succeeding hb _),
    run_bind_ok (pickWord_succeeding hc _)]
  rfl

/-- The random phase is a first-fit choice among its names; having chosen none, it has made every
    draw. -/
theorem randomPhase_succeeding {a b c : List String} (ha : a ≠ []) (hb : b ≠ []) (hc : c ≠ [])
    (used : UsedNames) (tries : ℕ) (reads : Reads) :
    ∃ rest, (randomPhase used a b c tries).run.run (succeeding reads)
        = (.ok (choose used ((List.range tries).map (nameAt a b c reads))), rest) ∧
      (choose used ((List.range tries).map (nameAt a b c reads)) = none →
        rest = succeeding (reads.drop (3 * tries))) := by
  induction tries generalizing reads with
  | zero => exact ⟨succeeding reads, rfl, fun _ => rfl⟩
  | succ tries ih =>
    have hrun : (randomPhase used a b c (tries + 1)).run.run (succeeding reads)
        = (if nameAt a b c reads 0 ∉ used then return some (nameAt a b c reads 0)
            else randomPhase used a b c tries : Draw (Option String)).run.run
          (succeeding (reads.drop 3)) := by
      rw [randomPhase, run_bind_ok (drawName_succeeding ha hb hc reads)]
    have hnames : (List.range (tries + 1)).map (nameAt a b c reads)
        = nameAt a b c reads 0 :: (List.range tries).map (nameAt a b c (reads.drop 3)) := by
      rw [List.range_succ_eq_map, List.map_cons, List.map_map]
      exact congrArg _ (List.map_congr_left fun i _ => (nameAt_drop a b c reads i).symm)
    rw [hrun, hnames, choose_cons]
    by_cases hused : nameAt a b c reads 0 ∈ used
    · rw [if_neg (not_not_intro hused), if_pos hused]
      obtain ⟨rest, hrest, hdrop⟩ := ih (reads.drop 3)
      refine ⟨rest, hrest, fun hnone => ?_⟩
      rw [hdrop hnone]
      unfold Reads.drop
      rw [show 3 * (tries + 1) = 3 * tries + 3 by omega]
      simp only [Nat.add_assoc]
    · rw [if_pos hused, if_neg hused]
      exact ⟨_, rfl, fun hnone => absurd hnone (Option.some_ne_none _)⟩

/-- The suffixed forms of the root, `-001` to `-999`. -/
def suffixes (root : String) : List String := (List.range' 1 999).map (suffixed root)

/-- What a call returns for the name it chose, if it chose one. -/
def outcome (root : String) : Option String → Except String String
  | some name => .ok name
  | none => .error (exhausted root)

/-- With a round of fuel for each suffix left, the suffix phase ends: it is a first-fit choice among
    the suffixed forms left. -/
theorem suffixPhase_eq_choose (used : UsedNames) (root : String) (extra : ℕ) :
    ∀ left i, i + left = 999 →
      suffixPhase used root (left + 1 + extra) i
        = some (outcome root (choose used ((List.range' i (left + 1)).map (suffixed root)))) := by
  intro left
  induction left with
  | zero =>
    intro i hi
    rw [show 0 + 1 + extra = extra + 1 by omega, suffixPhase, List.range'_succ, List.map_cons,
      choose_cons]
    by_cases hused : suffixed root i ∈ used
    · rw [if_neg (not_not_intro hused), if_pos hused, if_pos (by omega)]
      rfl
    · rw [if_pos hused, if_neg hused]
      rfl
  | succ left ih =>
    intro i hi
    rw [show left + 1 + 1 + extra = left + 1 + extra + 1 by omega, suffixPhase, List.range'_succ,
      List.map_cons, choose_cons]
    by_cases hused : suffixed root i ∈ used
    · rw [if_neg (not_not_intro hused), if_pos hused, if_neg (by omega)]
      exact ih (i + 1) (by omega)
    · rw [if_pos hused, if_neg hused]
      rfl

/-! ## A call is a first-fit choice -/

/-- Everything a call tries, in order: its random names and the suffixed forms of the root. -/
def candidates (a b c : List String) (reads : Reads) : List String :=
  (List.range maxRetries).map (nameAt a b c reads) ++ suffixes (nameAt a b c reads maxRetries)

theorem keep_outcome (used : UsedNames) (root : String) (x : Option String) :
    keep (some used) (outcome root x) = (outcome root x, some (commit used x)) := by
  cases x <;> rfl

/-- **`generate` is a first-fit choice**, and it always ends: 999 rounds of the suffix loop are
    enough. -/
theorem generate_eq_choose {a b c : List String} (ha : a ≠ []) (hb : b ≠ []) (hc : c ≠ [])
    (used : UsedNames) (reads : Reads) (extra : ℕ) :
    generate (999 + extra) (some used) a b c (succeeding reads)
      = some (outcome (nameAt a b c reads maxRetries) (choose used (candidates a b c reads)),
          some (commit used (choose used (candidates a b c reads)))) := by
  obtain ⟨rest, hrun, hdrop⟩ := randomPhase_succeeding ha hb hc used maxRetries reads
  rw [← keep_outcome, candidates, choose_append]
  cases hrandom : choose used ((List.range maxRetries).map (nameAt a b c reads)) with
  | some name =>
    rw [hrandom] at hrun
    simp only [generate, Option.getD_some, hrun]
    rfl
  | none =>
    rw [hrandom, hdrop hrandom] at hrun
    have hroot := drawName_succeeding ha hb hc (reads.drop (3 * maxRetries))
    have hname : nameAt a b c (reads.drop (3 * maxRetries)) 0 = nameAt a b c reads maxRetries := by
      unfold nameAt Reads.drop
      rw [Nat.mul_zero, Nat.zero_add, Nat.add_comm 1, Nat.add_comm 2]
    rw [hname] at hroot
    have hsuffix := suffixPhase_eq_choose used (nameAt a b c reads maxRetries) extra 998 1 rfl
    simp only [generate, Option.getD_some, hrun, hroot, Option.none_or]
    rw [show 999 + extra = 998 + 1 + extra from rfl, hsuffix]
    rfl

/-! ## Sessions -/

/-- The two generators of the package. -/
inductive Generator
  | appName
  | deviceName
  deriving DecidableEq, Repr

/-- A call of a generator, with the random bytes it draws. -/
structure Call where
  generator : Generator
  reads : Reads

/-- Run the call on the caller's map. -/
def Call.run (fuel : ℕ) (used : Option UsedNames) (call : Call) :
    Option (Except String String × Option UsedNames) :=
  match call.generator with
  | .appName => generateAppName fuel used (succeeding call.reads)
  | .deviceName => generateDeviceName fuel used (succeeding call.reads)

/-- The `i`-th name the call draws. -/
def Call.draw (call : Call) (i : ℕ) : String :=
  match call.generator with
  | .appName => nameAt adjectives helperAdjectives nouns call.reads i
  | .deviceName => nameAt helperAdjectives adjectives nouns call.reads i

/-- Everything the call tries, in order. -/
def Call.candidates (call : Call) : List String :=
  (List.range maxRetries).map call.draw ++ suffixes (call.draw maxRetries)

/-- Either generator is a first-fit choice. -/
theorem Call.run_eq_choose (call : Call) (used : UsedNames) (extra : ℕ) :
    call.run (999 + extra) (some used)
      = some (outcome (call.draw maxRetries) (choose used call.candidates),
          some (commit used (choose used call.candidates))) := by
  have hadjectives : adjectives ≠ [] := List.cons_ne_nil _ _
  have hhelpers : helperAdjectives ≠ [] := List.cons_ne_nil _ _
  have hnouns : nouns ≠ [] := List.cons_ne_nil _ _
  obtain ⟨generator, reads⟩ := call
  cases generator with
  | appName => exact generate_eq_choose hadjectives hhelpers hnouns used reads extra
  | deviceName => exact generate_eq_choose hhelpers hadjectives hnouns used reads extra

/-- One call of a session: the map before it, what it returned, the map after it. -/
structure Entry where
  call : Call
  before : Option UsedNames
  outcome : Except String String
  after : Option UsedNames

/-- The calls of a session, one after another on one map; `none` when a call does not end within its
    fuel. -/
def session (fuel : ℕ) : Option UsedNames → List Call → Option (List Entry)
  | _, [] => some []
  | used, call :: calls => do
    let (result, after) ← call.run fuel used
    let entries ← session fuel after calls
    return ⟨call, used, result, after⟩ :: entries

/-- The names a session returned, in order. -/
def returned (entries : List Entry) : List String :=
  entries.filterMap fun entry => entry.outcome.toOption

/-- All 1000 random names of the call were in use, and so were the 999 suffixed forms of the root
    drawn after them. -/
def Exhausted (call : Call) (used : UsedNames) : Prop :=
  (∀ i < 1000, call.draw i ∈ used) ∧ ∀ i, 1 ≤ i ∧ i ≤ 999 → suffixed (call.draw 1000) i ∈ used

/-- What one call does to the map: a name it returns was free and is all that is added, and it fails,
    with the map as it was, exactly when it is exhausted. -/
def Entry.Exact (entry : Entry) : Prop :=
  ∃ before after, entry.before = some before ∧ entry.after = some after ∧
    (∀ name, entry.outcome = .ok name → name ∉ before ∧ after = insert name before) ∧
    (∀ err, entry.outcome = .error err → after = before) ∧
    ((∃ err, entry.outcome = .error err) ↔ Exhausted entry.call before)

theorem exhausted_iff_forall_candidates (call : Call) (used : UsedNames) :
    Exhausted call used ↔ ∀ x ∈ call.candidates, x ∈ used := by
  have hsuffix : ∀ i, i ∈ List.range' 1 999 ↔ 1 ≤ i ∧ i ≤ 999 := by
    intro i
    rw [List.mem_range'_1]
    omega
  simp only [Exhausted, Call.candidates, suffixes, List.mem_append, or_imp, forall_and,
    List.forall_mem_map, List.mem_range, hsuffix, maxRetries]

/-- The session as a chain of first-fit choices. -/
def chain : UsedNames → List Call → List Entry
  | _, [] => []
  | used, call :: calls =>
    let x := choose used call.candidates
    ⟨call, some used, outcome (call.draw maxRetries) x, some (commit used x)⟩
      :: chain (commit used x) calls

theorem session_eq_chain (used : UsedNames) (calls : List Call) (extra : ℕ) :
    session (999 + extra) (some used) calls = some (chain used calls) := by
  induction calls generalizing used with
  | nil => rfl
  | cons call calls ih =>
    rw [session, Call.run_eq_choose]
    simp [ih, chain]

theorem chain_calls (used : UsedNames) (calls : List Call) :
    (chain used calls).map Entry.call = calls := by
  induction calls generalizing used with
  | nil => rfl
  | cons call calls ih => rw [chain, List.map_cons, ih]

/-- The names returned are the chosen ones. -/
theorem returned_chain (used : UsedNames) (calls : List Call) :
    returned (chain used calls)
      = (choices used (calls.map Call.candidates)).reduceOption := by
  induction calls generalizing used with
  | nil => rfl
  | cons call calls ih =>
    rw [List.map_cons, choices_cons, chain, returned, List.filterMap_cons]
    cases hx : choose used call.candidates with
    | none => exact ih used
    | some x =>
      rw [List.reduceOption_cons_of_some, ← ih]
      rfl

theorem chain_exact (used : UsedNames) (calls : List Call) :
    ∀ entry ∈ chain used calls, entry.Exact := by
  induction calls generalizing used with
  | nil => exact List.forall_mem_nil _
  | cons call calls ih =>
    rw [chain, List.forall_mem_cons]
    refine ⟨⟨used, _, rfl, rfl, ?_⟩, ih _⟩
    show _ ∧ _ ∧ (_ ↔ Exhausted call used)
    rw [exhausted_iff_forall_candidates, ← choose_eq_none]
    cases hx : choose used call.candidates with
    | none => simp [outcome, commit]
    | some x =>
      have hfresh := choose_not_mem hx
      refine ⟨?_, ?_, ?_⟩
      · intro name hname
        cases hname
        exact ⟨hfresh, rfl⟩
      · intro err herr
        cases herr
      · simp [outcome]

/-! ## Seeding -/

/-- The seeded set holds what it held and the names, the empty one apart. -/
theorem mem_seeded (used : UsedNames) (names : List String) (x : String) :
    x ∈ names.foldl (fun used n => if n ≠ "" then insert n used else used) used
      ↔ x ∈ used ∨ (x ∈ names ∧ x ≠ "") := by
  induction names generalizing used with
  | nil => simp
  | cons n names ih =>
    rw [List.foldl_cons, ih]
    by_cases hn : n = ""
    · simp only [hn, ne_eq, not_true_eq_false, if_false, List.mem_cons]
      tauto
    · simp only [hn, ne_eq, not_false_eq_true, if_true, Finset.mem_insert, List.mem_cons]
      grind

theorem compose_ne_empty (a b c : String) : compose a b c ≠ "" := by
  simp [compose]

theorem suffixed_ne_empty (root : String) (i : ℕ) : suffixed root i ≠ "" := by
  simp [suffixed]

/-- A name that a call tries is never empty. -/
theorem ne_empty_of_mem_candidates {call : Call} {x : String} (h : x ∈ call.candidates) :
    x ≠ "" := by
  rw [Call.candidates, List.mem_append] at h
  rcases h with h | h
  · obtain ⟨i, _, rfl⟩ := List.mem_map.mp h
    unfold Call.draw
    cases call.generator <;> exact compose_ne_empty _ _ _
  · obtain ⟨i, _, rfl⟩ := List.mem_map.mp h
    exact suffixed_ne_empty _ i

/-! ## Uniqueness -/

/-- **Unique mock names.**  On a set that is not nil, seeded with any names, any sequence of calls
    with any draws runs to its end.  The names returned are pairwise distinct and were neither in the
    set nor among the seeds; a call that succeeds adds exactly its name, and one that fails leaves
    the set as it was, which happens exactly when its 1000 random names and the 999 suffixed forms of
    its root were all in use. -/
theorem session_unique_names (used : UsedNames) (seeds : List String) (calls : List Call) :
    ∃ entries, (∀ extra, session (999 + extra) (seedFromStrings (some used) seeds) calls
        = some entries) ∧
      entries.map Entry.call = calls ∧
      (returned entries).Nodup ∧
      (∀ name ∈ returned entries, name ∉ used ∧ name ∉ seeds) ∧
      ∀ entry ∈ entries, entry.Exact := by
  refine ⟨chain _ calls, session_eq_chain _ calls, chain_calls _ calls, ?_, ?_, chain_exact _ calls⟩
  · rw [returned_chain]
    exact choices_nodup _ _
  · intro name hname
    rw [returned_chain, List.reduceOption_mem_iff] at hname
    have hfresh := choices_fresh hname
    obtain ⟨lists, hlists, hmem⟩ := mem_of_choices hname
    obtain ⟨call, _, rfl⟩ := List.mem_map.mp hlists
    have hne := ne_empty_of_mem_candidates hmem
    rw [mem_seeded] at hfresh
    exact ⟨fun h => hfresh (Or.inl h), fun h => hfresh (Or.inr ⟨h, hne⟩)⟩

/-! ## Failed calls -/

/-- A call that returns an error, for whatever reason, leaves the caller's map as it was. -/
theorem generate_error_unchanged {fuel : ℕ} {used after : Option UsedNames} {a b c : List String}
    {rand : Rand} {err : String}
    (h : generate fuel used a b c rand = some (.error err, after)) : after = used := by
  have hkeep : ∀ result, keep used result = (.error err, after) → after = used := by
    intro result hresult
    cases result with
    | error e =>
      cases hresult
      rfl
    | ok name => cases hresult
  unfold generate at h
  dsimp only at h
  split at h
  · exact hkeep _ (Option.some.inj h)
  · exact hkeep _ (Option.some.inj h)
  · split at h
    · exact hkeep _ (Option.some.inj h)
    · obtain ⟨result, _, hresult⟩ := Option.map_eq_some_iff.mp h
      exact hkeep result hresult

end MockNames

end ChirpStackSimulator
