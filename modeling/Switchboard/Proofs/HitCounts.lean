/-
How often a rule was applied.

The count of a rule belongs to all its versions. Old versions live on in snapshots that are held,
and whoever finds one of them there is counted too. A rule is new when its name was free before, and
a rule that is added again after it was deleted is another one.

* `Tally`: a proxy, snapshots that are held, and a list of all hits, kept apart from the counts;
* `Tally.Move`, `Tally.run`: events, holding a snapshot, and evaluations and look-ups in any;
* `Tally.Kept`: every count has at most one owner, whatever snapshot it is looked at from;
* `Tally.run_hitCounts`: the count of a rule is the number of its hits, and does not go down.
-/
import Switchboard.Proofs.Locality
import Switchboard.Proofs.Routing.Applied

namespace Switchboard

/-- The hits of the look-up that an event makes. -/
def Proxy.hits (p : Proxy) (e : Event) : List Hit :=
  match p.lookUp? e with
  | none => []
  | some (list, metadata) => p.registry.current.hits (maxDelegations + 1) list metadata

/-! ### Tallies -/

/-- A registered rule: its name, and how often a rule had been added under this name. -/
abbrev RuleKey := String × Nat

/-- A snapshot, and how often a rule had been added under each name by then. -/
structure Sight where
  snapshot : Snapshot
  added : String → Nat

/-- The registered rule that was hit, if it is not one of a list's own. -/
def Sight.key? (v : Sight) (hit : Hit) : Option RuleKey :=
  match hit.entry with
  | .named name => some (name, v.added name)
  | .inline _ => none

/-- The number of additions under each name, after one step. -/
def Snapshot.additions (s next : Snapshot) (added : String → Nat) (name : String) : Nat :=
  if (s.rule? name).isNone && (next.rule? name).isSome then added name + 1 else added name

/-- A proxy and what is observed of it. -/
structure Tally where
  proxy : Proxy
  added : String → Nat
  /-- The snapshots that are held. -/
  held : List Sight
  /-- All hits of registered rules. -/
  hits : List RuleKey

namespace Tally

def fresh (strict : Bool) : Tally := ⟨.fresh strict, fun _ => 0, [], []⟩

def current (t : Tally) : Sight := ⟨t.proxy.registry.current, t.added⟩

def counters (t : Tally) : Counters := t.proxy.registry.counters

theorem current_added (t : Tally) : t.current.added = t.added := rfl

/-- A snapshot to look at: one that is held, or else the current one. -/
def sight? (t : Tally) : Option Nat → Option Sight
  | none => some t.current
  | some i => t.held[i]?

/-- What can happen. -/
inductive Move
  | event (e : Event)
  /-- The current snapshot is taken and held. -/
  | hold
  | evaluate (sight : Option Nat) (list : String) (metadata : Json)
  | lookUp (sight : Option Nat) (list : String) (metadata : Json)

def Move.isChecked : Move → Bool
  | event e => e.isChecked
  | _ => true

/-- Notes some hits, after which the registry is another one. -/
def note (t : Tally) (v : Sight) (hits : List Hit) (registry : Registry) : Tally :=
  { t with proxy := { t.proxy with registry }, hits := t.hits ++ hits.filterMap v.key? }

/-- The tally after a move. -/
def apply (t : Tally) : Move → Tally
  | .event e =>
    { t with
      proxy := t.proxy.apply e
      added := t.proxy.registry.current.additions (t.proxy.apply e).registry.current t.added
      hits := t.hits ++ (t.proxy.hits e).filterMap t.current.key? }
  | .hold => { t with held := t.held ++ [t.current] }
  | .evaluate sight list metadata =>
    match t.sight? sight with
    | none => t
    | some v =>
      match v.snapshot.ruleList? list with
      | none => t
      | some found =>
        t.note v (RuleList.hit? v.snapshot.rule? metadata found.entries).toList
          (t.proxy.registry.evaluate v.snapshot found metadata).2
  | .lookUp sight list metadata =>
    match t.sight? sight with
    | none => t
    | some v =>
      t.note v (v.snapshot.hits (maxDelegations + 1) list metadata)
        (t.proxy.registry.lookup v.snapshot list metadata).2.2

def run (moves : List Move) (t : Tally) : Tally := moves.foldl apply t

end Tally

/-! ### Versions -/

/-- Whoever is registered afterwards was there before with the same count. Lists may have new rules
of their own, and those have new counts. -/
structure Snapshot.Continues (s next : Snapshot) (cs later : Counters) : Prop where
  rule : ∀ name rule, next.rule? name = some rule →
    ∃ old, s.rule? name = some old ∧ rule.counter = old.counter
  own : ∀ name list, next.ruleList? name = some list → ∀ rule, .inline rule ∈ list.entries →
    (∃ name old, s.ruleList? name = some old ∧ .inline rule ∈ old.entries) ∨
      cs.Adds later rule.counter

namespace Snapshot

variable {s next : Snapshot} {cs later : Counters}

theorem Continues.ofRules (lists : next.ruleLists = s.ruleLists)
    (rule : ∀ name rule, next.rule? name = some rule →
      ∃ old, s.rule? name = some old ∧ rule.counter = old.counter) :
    s.Continues next cs later := by
  refine ⟨rule, fun name list hlist own hown => .inl ⟨name, list, ?_, hown⟩⟩
  rwa [ruleList?, ← lists]

theorem Continues.ofLists (rules : next.rules = s.rules)
    (own : ∀ name list, next.ruleList? name = some list → ∀ rule, .inline rule ∈ list.entries →
      (∃ name old, s.ruleList? name = some old ∧ .inline rule ∈ old.entries) ∨
        cs.Adds later rule.counter) :
    s.Continues next cs later := by
  refine ⟨fun name rule hrule => ⟨rule, ?_, rfl⟩, own⟩
  rwa [rule?, ← rules]

theorem Continues.refl (s : Snapshot) (cs later : Counters) : s.Continues s cs later :=
  .ofRules rfl fun _ rule hrule => ⟨rule, hrule, rfl⟩

/-- After an act, all rules are versions of rules that were there, unless it has added one. -/
theorem continues_or_adds {kind : EntityKind} {name : String}
    (act : Admin.Act s cs later kind name next) :
    s.Continues next cs later ∨
      ∃ rule, s.rule? rule.name = none ∧ cs.Adds later rule.counter ∧ next = s.putRule rule := by
  cases act with
  | addRule rule free new => exact .inr ⟨rule, free, new, rfl⟩
  | updateRule old rule there counter =>
    refine .inl (.ofRules rfl fun n r hr => ?_)
    rcases Table.find?_insert_eq_some hr with ⟨rfl, rfl⟩ | hr
    · exact ⟨old, there, counter⟩
    · exact ⟨r, hr, rfl⟩
  | dropRule name =>
    exact .inl (.ofRules rfl fun n r hr => ⟨r, Table.find?_of_find?_erase hr, rfl⟩)
  | putRuleList list own =>
    refine .inl (.ofLists rfl fun n l hl rule hrule => ?_)
    rcases Table.find?_insert_eq_some hl with ⟨rfl, rfl⟩ | hl
    · exact own rule hrule
    · exact .inl ⟨n, l, hl, hrule⟩
  | dropRuleList name =>
    exact .inl (.ofLists rfl fun n l hl rule hrule =>
      .inl ⟨n, l, Table.find?_of_find?_erase hl, hrule⟩)
  | _ => exact .inl (.ofRules rfl fun _ rule hrule => ⟨rule, hrule, rfl⟩)

/-- A rule that is there is not added. -/
theorem additions_of_there {name : String} {rule : Rule} (there : s.rule? name = some rule)
    (next : Snapshot) (added : String → Nat) : s.additions next added name = added name := by
  rw [additions, there]
  rfl

theorem Continues.additions (h : s.Continues next cs later) (added : String → Nat) :
    s.additions next added = added := by
  funext name
  cases hnext : next.rule? name with
  | none =>
    rw [Snapshot.additions, hnext, Option.isSome_none, Bool.and_false]
    rfl
  | some rule =>
    obtain ⟨old, there, -⟩ := h.rule name rule hnext
    exact additions_of_there there next added

theorem additions_putRule {rule : Rule} (free : s.rule? rule.name = none)
    (added : String → Nat) :
    s.additions (s.putRule rule) added rule.name = added rule.name + 1 := by
  have hthere : (s.putRule rule).rule? rule.name = some rule := Table.find?_insert_self ..
  rw [additions, free, hthere]
  rfl

theorem le_additions (s next : Snapshot) (added : String → Nat) (name : String) :
    added name ≤ s.additions next added name := by
  rw [additions]
  split <;> omega

end Snapshot

/-! ### Owners of counts -/

/-- The registered rule that a count belongs to. -/
abbrev Owners := CounterId → Option RuleKey

/-- The owners when a count has got one. -/
def Owners.give (owner : Owners) (id : CounterId) (key : RuleKey) : Owners :=
  Function.update owner id (some key)

/-- The rules in a snapshot own their counts: registered ones under their keys, and those of lists'
own under none. -/
structure Sight.Owns (v : Sight) (size : Nat) (owner : Owners) : Prop where
  registered : ∀ name rule, v.snapshot.rule? name = some rule →
    rule.counter < size ∧ owner rule.counter = some (name, v.added name)
  inline : ∀ name list, v.snapshot.ruleList? name = some list → ∀ rule,
    .inline rule ∈ list.entries → rule.counter < size ∧ owner rule.counter = none

namespace Owners

variable {owner : Owners} {id other : CounterId} {key new : RuleKey}

theorem give_self (owner : Owners) (id : CounterId) (key : RuleKey) :
    owner.give id key id = some key :=
  Function.update_self ..

theorem give_of_lt (h : other < id) : owner.give id key other = owner other :=
  Function.update_of_ne (Nat.ne_of_lt h) ..

theorem give_eq_some (h : owner.give id new other = some key) :
    other = id ∧ new = key ∨ owner other = some key := by
  by_cases hother : other = id
  · rw [hother, give_self] at h
    exact .inl ⟨hother, Option.some.inj h⟩
  · rw [give, Function.update_of_ne hother] at h
    exact .inr h

end Owners

namespace Sight

variable {v : Sight} {size more : Nat} {owner : Owners}

/-- The rule that is hit has the key of the hit for an owner. -/
theorem Owns.owner_eq (owns : v.Owns size owner) {hit : Hit} (offers : v.snapshot.Offers hit) :
    owner hit.rule.counter = v.key? hit := by
  obtain ⟨name, list, there, hentry, hrule⟩ := offers
  obtain ⟨entry, rule⟩ := hit
  cases entry with
  | named other => exact (owns.registered other rule hrule).2
  | inline own =>
    obtain rfl : own = rule := Option.some.inj hrule
    exact (owns.inline name list there own hentry).2

theorem Owns.grow (owns : v.Owns size owner) (le : size ≤ more) : v.Owns more owner := by
  refine ⟨fun name rule hrule => ?_, fun name list hlist rule hrule => ?_⟩
  · obtain ⟨hlt, howner⟩ := owns.registered name rule hrule
    exact ⟨Nat.lt_of_lt_of_le hlt le, howner⟩
  · obtain ⟨hlt, howner⟩ := owns.inline name list hlist rule hrule
    exact ⟨Nat.lt_of_lt_of_le hlt le, howner⟩

/-- A count that is new is given to somebody. -/
theorem Owns.give (owns : v.Owns size owner) {id : CounterId} (new : size ≤ id) (key : RuleKey) :
    v.Owns size (owner.give id key) := by
  refine ⟨fun name rule hrule => ?_, fun name list hlist rule hrule => ?_⟩
  · obtain ⟨hlt, howner⟩ := owns.registered name rule hrule
    exact ⟨hlt, (Owners.give_of_lt (Nat.lt_of_lt_of_le hlt new)).trans howner⟩
  · obtain ⟨hlt, howner⟩ := owns.inline name list hlist rule hrule
    exact ⟨hlt, (Owners.give_of_lt (Nat.lt_of_lt_of_le hlt new)).trans howner⟩

end Sight

namespace Tally

/-- Whether a snapshot can still be looked at. -/
def Sees (t : Tally) (v : Sight) : Prop := v = t.current ∨ v ∈ t.held

theorem sees_of_sight? {t : Tally} {i : Option Nat} {v : Sight} (h : t.sight? i = some v) :
    t.Sees v := by
  cases i with
  | none => exact .inl (Option.some.inj h).symm
  | some i => exact .inr (List.mem_of_getElem? h)

/-- Every count that belongs to a registered rule, now or in a snapshot that is held, is the number
of the rule's hits. Other rules have other counts. -/
structure Kept (t : Tally) (owner : Owners) : Prop where
  owns : ∀ v, t.Sees v → v.Owns t.counters.size owner
  counts : ∀ id key, owner id = some key → t.counters.get id = t.hits.count key
  unique : ∀ id other key, owner id = some key → owner other = some key → id = other
  range : ∀ id key, owner id = some key → id < t.counters.size
  past : ∀ id key, owner id = some key → key.2 ≤ t.added key.1
  owned : ∀ key ∈ t.hits, ∃ id, owner id = some key

/-- What all operations have in common: nothing is hit, and no count changes. -/
structure Operated (t later : Tally) : Prop where
  extended : t.proxy.registry.resources.Extends later.proxy.registry.resources
  added : later.added = t.current.snapshot.additions later.current.snapshot t.added
  held : later.held = t.held
  hits : later.hits = t.hits

variable {t later : Tally} {owner : Owners}

/-- Hits in a snapshot that can be looked at are counted where they belong. -/
theorem Kept.count {v : Sight} {hits : List Hit} (kept : t.Kept owner) (sees : t.Sees v)
    (offers : ∀ hit ∈ hits, v.snapshot.Offers hit) (current : later.current = t.current)
    (held : later.held = t.held) (counters : later.counters = t.counters.countAll hits)
    (noted : later.hits = t.hits ++ hits.filterMap v.key?) : later.Kept owner := by
  have hsize : later.counters.size = t.counters.size := by
    rw [counters]
    exact Counters.size_countAll _ _
  have howner (hit : Hit) (hmem : hit ∈ hits) : owner hit.rule.counter = v.key? hit :=
    (kept.owns v sees).owner_eq (offers hit hmem)
  have hadded : later.added = t.added := congrArg Sight.added current
  refine ⟨fun w hw => ?_, fun id key hkey => ?_, kept.unique, ?_, ?_, fun key hkey => ?_⟩
  · rw [hsize]
    refine kept.owns w ?_
    rwa [Sees, current, held] at hw
  · rw [counters, Counters.get_countAll _ _ (kept.range id key hkey), noted, List.count_append,
      List.count_filterMap, kept.counts id key hkey]
    congr 1
    -- a hit has this count exactly if it has this key, since no other count has the key
    refine List.countP_congr fun hit hmem => ?_
    rw [beq_iff_eq, beq_iff_eq, ← howner hit hmem]
    constructor
    · rintro rfl
      exact hkey
    · exact fun h => kept.unique _ _ key h hkey
  · rw [hsize]
    exact kept.range
  · rw [hadded]
    exact kept.past
  · rw [noted, List.mem_append] at hkey
    rcases hkey with hkey | hkey
    · exact kept.owned key hkey
    · obtain ⟨hit, hmem, hhit⟩ := List.mem_filterMap.mp hkey
      exact ⟨hit.rule.counter, (howner hit hmem).trans hhit⟩

/-- A new count belongs to nobody. -/
theorem Kept.owner_eq_none (kept : t.Kept owner) {id : CounterId} (new : t.counters.size ≤ id) :
    owner id = none := by
  cases howner : owner id with
  | none => rfl
  | some key => exact absurd (kept.range id key howner) (Nat.not_lt.mpr new)

/-- The next rule of a name owns nothing yet. -/
theorem Kept.owner_ne (kept : t.Kept owner) (id : CounterId) (name : String) :
    owner id ≠ some (name, t.added name + 1) :=
  fun h => absurd (kept.past id _ h) (Nat.not_succ_le_self _)

theorem Kept.count_eq_zero (kept : t.Kept owner) (name : String) :
    t.hits.count (name, t.added name + 1) = 0 := by
  refine List.count_eq_zero.mpr fun hmem => ?_
  obtain ⟨id, hid⟩ := kept.owned _ hmem
  exact kept.owner_ne id name hid

theorem Operated.sees (op : t.Operated later) {v : Sight} (h : later.Sees v) :
    v = later.current ∨ t.Sees v :=
  h.imp_right fun hv => .inr (op.held ▸ hv)

/-- Versions go on with the counts of the rules before. -/
theorem Kept.continues (kept : t.Kept owner) (op : t.Operated later)
    (continues : t.current.snapshot.Continues later.current.snapshot t.counters later.counters) :
    later.Kept owner := by
  have hadded : later.added = t.added := op.added.trans (continues.additions t.added)
  have hold (v : Sight) (hv : t.Sees v) : v.Owns later.counters.size owner :=
    (kept.owns v hv).grow op.extended.size
  have hthere := hold t.current (.inl rfl)
  have hcurrent : later.current.Owns later.counters.size owner := by
    refine ⟨fun name rule hrule => ?_, fun name list hlist rule hrule => ?_⟩
    · obtain ⟨old, hold, hcounter⟩ := continues.rule name rule hrule
      rw [hcounter, current_added, hadded]
      exact hthere.registered name old hold
    · rcases continues.own name list hlist rule hrule with ⟨name', old, hold, hmem⟩ | hnew
      · exact hthere.inline name' old hold rule hmem
      · exact ⟨hnew.2, kept.owner_eq_none hnew.1⟩
  refine ⟨fun v hv => ?_, fun id key hkey => ?_, kept.unique, fun id key hkey => ?_, ?_, ?_⟩
  · rcases op.sees hv with rfl | hv
    · exact hcurrent
    · exact hold v hv
  · rw [op.hits]
    exact (op.extended.count id).trans (kept.counts id key hkey)
  · exact Nat.lt_of_lt_of_le (kept.range id key hkey) op.extended.size
  · rw [hadded]
    exact kept.past
  · rw [op.hits]
    exact kept.owned

/-- A rule that is added owns its count, which nobody had before. -/
theorem Kept.adds {rule : Rule} (kept : t.Kept owner) (op : t.Operated later)
    (free : t.current.snapshot.rule? rule.name = none)
    (new : t.counters.Adds later.counters rule.counter)
    (next : later.current.snapshot = t.current.snapshot.putRule rule) :
    later.Kept (owner.give rule.counter (rule.name, t.added rule.name + 1)) := by
  have hadded := op.added
  rw [next] at hadded
  have hname : later.added rule.name = t.added rule.name + 1 := by
    rw [hadded, Snapshot.additions_putRule free]
  -- rules in snapshots that are held have older counts, so that nothing changes for them
  have hold (v : Sight) (hv : t.Sees v) : v.Owns later.counters.size
      (owner.give rule.counter (rule.name, t.added rule.name + 1)) :=
    ((kept.owns v hv).give new.1 _).grow op.extended.size
  have hthere := hold t.current (.inl rfl)
  have hcurrent : later.current.Owns later.counters.size
      (owner.give rule.counter (rule.name, t.added rule.name + 1)) := by
    refine ⟨fun name r hr => ?_, fun name list hlist r hr => ?_⟩
    · rw [next] at hr
      rcases Table.find?_insert_eq_some hr with ⟨rfl, rfl⟩ | hr
      · rw [current_added, hname]
        exact ⟨new.2, owner.give_self _ _⟩
      · rw [current_added, hadded, Snapshot.additions_of_there hr]
        exact hthere.registered name r hr
    · rw [next] at hlist
      exact hthere.inline name list hlist r hr
  refine ⟨fun v hv => ?_, fun id key hkey => ?_, fun id other key hid hother => ?_,
    fun id key hkey => ?_, fun id key hkey => ?_, fun key hkey => ?_⟩
  · rcases op.sees hv with rfl | hv
    · exact hcurrent
    · exact hold v hv
  · rw [op.hits]
    refine (op.extended.count id).trans ?_
    rcases Owners.give_eq_some hkey with ⟨rfl, rfl⟩ | hkey
    · exact (Counters.get_of_size_le new.1).trans (kept.count_eq_zero rule.name).symm
    · exact kept.counts id key hkey
  · -- nobody else has the key that is new
    rcases Owners.give_eq_some hid with ⟨rfl, rfl⟩ | hid
    · rcases Owners.give_eq_some hother with ⟨rfl, -⟩ | hother
      · rfl
      · exact absurd hother (kept.owner_ne other rule.name)
    · rcases Owners.give_eq_some hother with ⟨rfl, rfl⟩ | hother
      · exact absurd hid (kept.owner_ne id rule.name)
      · exact kept.unique id other key hid hother
  · rcases Owners.give_eq_some hkey with ⟨rfl, -⟩ | hkey
    · exact new.2
    · exact Nat.lt_of_lt_of_le (kept.range id key hkey) op.extended.size
  · rcases Owners.give_eq_some hkey with ⟨-, rfl⟩ | hkey
    · exact Nat.le_of_eq hname.symm
    · rw [hadded]
      exact Nat.le_trans (kept.past id key hkey) (Snapshot.le_additions ..)
  · rw [op.hits] at hkey
    obtain ⟨id, hid⟩ := kept.owned key hkey
    have hlt : id < rule.counter := Nat.lt_of_lt_of_le (kept.range id key hid) new.1
    exact ⟨id, (Owners.give_of_lt hlt).trans hid⟩

/-! ### Moves -/

theorem Kept.operation (kept : t.Kept owner) (own : t.proxy.registry.current.OwnNames)
    (op : Admin.Operation) : ∃ owner, (t.apply (.event (.operation op))).Kept owner := by
  obtain ⟨hextended, hcurrent⟩ := Proxy.carryOut_acts own op
  have hoperated : t.Operated (t.apply (.event (.operation op))) :=
    ⟨hextended, rfl, rfl, List.append_nil t.hits⟩
  rcases hcurrent with hsame | ⟨kind, name, hact⟩
  · -- it was refused, or it was about a session
    refine ⟨owner, kept.continues hoperated ?_⟩
    show t.current.snapshot.Continues (op.carryOut t.proxy).2.registry.current _ _
    rw [hsame]
    exact .refl _ _ _
  · rcases Snapshot.continues_or_adds hact with hcontinues | ⟨rule, hfree, hnew, hnext⟩
    · exact ⟨owner, kept.continues hoperated hcontinues⟩
    · exact ⟨_, kept.adds hoperated hfree hnew hnext⟩

theorem Kept.quiet {e : Event} (kept : t.Kept owner) (checked : e.isChecked = true)
    (other : ∀ op, e ≠ .operation op) : (t.apply (.event e)).Kept owner := by
  have hquiet := t.proxy.apply_quiet checked other
  have hadded : (t.apply (.event e)).added = t.added := by
    show t.proxy.registry.current.additions (t.proxy.apply e).registry.current t.added = t.added
    rw [hquiet.current]
    exact (Snapshot.Continues.refl _ t.counters t.counters).additions t.added
  have hcurrent : (t.apply (.event e)).current = t.current := by
    rw [current, current, hadded]
    exact congrArg (Sight.mk · t.added) hquiet.current
  have hoffers : ∀ hit ∈ t.proxy.hits e, t.current.snapshot.Offers hit := by
    intro hit hmem
    unfold Proxy.hits at hmem
    split at hmem
    · cases hmem
    · exact Snapshot.offers_of_mem_hits _ hmem
  refine kept.count (.inl rfl) hoffers hcurrent rfl (hquiet.counters.trans ?_) rfl
  unfold Proxy.hits
  cases t.proxy.lookUp? e with
  | none => rfl
  | some looked => exact Snapshot.counters_lookup _ looked.1 looked.2 _

/-- Looking something up comes to its hits: they are counted and noted, and that is all. -/
inductive Looked (t : Tally) : Tally → Prop
  | nothing : Looked t t
  | noted (v : Sight) (hits : List Hit) (registry : Registry) (sees : t.Sees v)
      (offers : ∀ hit ∈ hits, v.snapshot.Offers hit)
      (current : registry.current = t.proxy.registry.current)
      (counters : registry.counters = t.counters.countAll hits) :
      Looked t (t.note v hits registry)

theorem looked_evaluate (t : Tally) (sight : Option Nat) (list : String) (metadata : Json) :
    t.Looked (t.apply (.evaluate sight list metadata)) := by
  unfold Tally.apply
  dsimp only
  split
  · exact .nothing
  · next v hv =>
    split
    · exact .nothing
    · next found hfound =>
      refine .noted v _ _ (sees_of_sight? hv) (fun hit hmem => ?_) rfl
        (RuleList.counters_evaluate _ _ _ _)
      exact v.snapshot.offers_of_hit? hfound (Option.mem_toList.mp hmem)

theorem looked_lookUp (t : Tally) (sight : Option Nat) (list : String) (metadata : Json) :
    t.Looked (t.apply (.lookUp sight list metadata)) := by
  unfold Tally.apply
  dsimp only
  split
  · exact .nothing
  · next v hv =>
    exact .noted v _ _ (sees_of_sight? hv) (fun hit hmem => v.snapshot.offers_of_mem_hits hmem)
      rfl (Snapshot.counters_lookup _ _ _ _)

theorem Kept.looked (kept : t.Kept owner) (h : t.Looked later) : later.Kept owner := by
  cases h with
  | nothing => exact kept
  | noted v hits registry sees offers current counters =>
    have hcurrent : (t.note v hits registry).current = t.current :=
      congrArg (Sight.mk · t.added) current
    exact kept.count sees offers hcurrent rfl counters rfl

/-- Whatever the move is, hits are counted where they belong. -/
theorem Kept.apply {m : Move} (kept : t.Kept owner) (own : t.proxy.registry.current.OwnNames)
    (checked : m.isChecked = true) : ∃ owner, (t.apply m).Kept owner := by
  cases m with
  | event e =>
    by_cases hoperation : ∃ op, e = .operation op
    · obtain ⟨op, rfl⟩ := hoperation
      exact kept.operation own op
    · exact ⟨owner, kept.quiet checked fun op hop => hoperation ⟨op, hop⟩⟩
  | hold =>
    refine ⟨owner, { kept with owns := fun v hv => kept.owns v ?_ }⟩
    rcases hv with rfl | hv
    · exact .inl rfl
    · rcases List.mem_append.mp hv with hv | hv
      · exact .inr hv
      · exact .inl (List.mem_singleton.mp hv)
  | evaluate sight list metadata =>
    exact ⟨owner, kept.looked (t.looked_evaluate sight list metadata)⟩
  | lookUp sight list metadata =>
    exact ⟨owner, kept.looked (t.looked_lookUp sight list metadata)⟩

/-! ### Runs -/

/-- All hits are counted where they belong. -/
def Exact (t : Tally) : Prop := t.proxy.registry.current.OwnNames ∧ ∃ owner, t.Kept owner

theorem exact_fresh (strict : Bool) : (fresh strict).Exact := by
  -- nobody owns a count yet
  refine ⟨⟨nofun, nofun⟩, fun _ => none, fun v hv => ?_, nofun, nofun, nofun, nofun, nofun⟩
  rcases hv with rfl | hv
  · exact ⟨nofun, nofun⟩
  · cases hv

theorem Looked.ownNames (h : t.Looked later) (own : t.proxy.registry.current.OwnNames) :
    later.proxy.registry.current.OwnNames := by
  cases h with
  | nothing => exact own
  | noted v hits registry sees offers current =>
    show registry.current.OwnNames
    rwa [current]

theorem Exact.apply {m : Move} (h : t.Exact) (checked : m.isChecked = true) :
    (t.apply m).Exact := by
  obtain ⟨hown, owner, hkept⟩ := h
  refine ⟨?_, hkept.apply hown checked⟩
  cases m with
  | event e => exact Proxy.ownNames_apply (Event.keepsNames_of_isChecked checked) hown
  | hold => exact hown
  | evaluate sight list metadata => exact (t.looked_evaluate sight list metadata).ownNames hown
  | lookUp sight list metadata => exact (t.looked_lookUp sight list metadata).ownNames hown

theorem Exact.run {moves : List Move} (h : t.Exact)
    (checked : ∀ m ∈ moves, m.isChecked = true) : (run moves t).Exact := by
  induction moves generalizing t with
  | nil => exact h
  | cons m moves ih =>
    obtain ⟨hm, hmoves⟩ := List.forall_mem_cons.mp checked
    exact ih (h.apply hm) hmoves

/-- Whether there is a rule of this name. -/
def Registers (t : Tally) (name : String) : Prop :=
  (t.proxy.registry.current.rule? name).isSome = true

instance (t : Tally) (name : String) : Decidable (t.Registers name) :=
  inferInstanceAs (Decidable (_ = true))

/-- Whether the count that the view of a rule shows is `n`. -/
def Shows (t : Tally) (name : String) (n : Nat) : Prop :=
  Admin.getPath t.proxy .rule name "/stats/total_applied" = .ok (.nat n)

theorem Exact.shows {name : String} (h : t.Exact) (registers : t.Registers name) :
    t.Shows name (t.hits.count (name, t.added name)) := by
  obtain ⟨-, owner, hkept⟩ := h
  obtain ⟨rule, hrule⟩ := Option.isSome_iff_exists.mp registers
  have howner := ((hkept.owns t.current (.inl rfl)).registered name rule hrule).2
  have hget : Admin.get t.proxy .rule name false = .ok (rule.view t.counters) := by
    rw [Admin.get, Admin.getRule, hrule]
    rfl
  rw [Shows, ← t.current_added, ← hkept.counts _ _ howner, Admin.getPath, hget]
  dsimp only
  rw [Rule.get_view]

/-- Nothing that was noted is forgotten, and a rule that is there is not added. -/
theorem apply_grows (t : Tally) (m : Move) :
    t.hits <+: (t.apply m).hits ∧
      ∀ name, t.Registers name → (t.apply m).added name = t.added name := by
  have hlooked {later : Tally} (h : t.Looked later) :
      t.hits <+: later.hits ∧ ∀ name, t.Registers name → later.added name = t.added name := by
    cases h with
    | nothing => exact ⟨List.prefix_rfl, fun _ _ => rfl⟩
    | noted => exact ⟨List.prefix_append _ _, fun _ _ => rfl⟩
  cases m with
  | event e =>
    refine ⟨List.prefix_append _ _, fun name registers => ?_⟩
    obtain ⟨rule, hrule⟩ := Option.isSome_iff_exists.mp registers
    exact Snapshot.additions_of_there hrule _ t.added
  | hold => exact ⟨List.prefix_rfl, fun _ _ => rfl⟩
  | evaluate sight list metadata => exact hlooked (t.looked_evaluate sight list metadata)
  | lookUp sight list metadata => exact hlooked (t.looked_lookUp sight list metadata)

/-- As long as a rule stays, it is the same rule, and its hits get more. -/
theorem run_grows {name : String} {moves : List Move}
    (stays : ∀ first, first <+: moves → (run first t).Registers name) :
    t.hits <+: (run moves t).hits ∧ (run moves t).added name = t.added name := by
  -- on the moves from the first on, with the rule there before each of them
  induction moves generalizing t with
  | nil => exact ⟨List.prefix_rfl, rfl⟩
  | cons m moves ih =>
    obtain ⟨hhits, hadded⟩ := t.apply_grows m
    have hrest := ih fun first hfirst => stays (m :: first) ((List.prefix_cons_inj m).mpr hfirst)
    exact ⟨hhits.trans hrest.1, hrest.2.trans (hadded name (stays [] List.nil_prefix))⟩

/-- **The count of a rule is the number of its hits.** Take any run of operations and other events
in which snapshots are held, and lists are evaluated or looked up in held ones and in the current
one. The count of every rule in a snapshot that can be looked at is the number of times that this
rule was found under its name, in whatever version and in whatever snapshot, since it was added.
The view of a registered rule shows this number, and it does not go down while the rule stays. -/
theorem run_hitCounts {strict : Bool} {moves : List Move}
    (checked : ∀ m ∈ moves, m.isChecked = true) :
    let t := run moves (fresh strict)
    (∀ v, t.Sees v → ∀ name rule, v.snapshot.rule? name = some rule →
      t.counters.get rule.counter = t.hits.count (name, v.added name)) ∧
    ∀ name, t.Registers name →
      t.Shows name (t.hits.count (name, t.added name)) ∧
      ∀ more, (∀ m ∈ more, m.isChecked = true) →
        (∀ first, first <+: more → (run first t).Registers name) →
        ∃ n, t.hits.count (name, t.added name) ≤ n ∧ (run more t).Shows name n := by
  intro t
  have hexact : t.Exact := (exact_fresh strict).run checked
  refine ⟨fun v hv name rule hrule => ?_, fun name registers => ⟨hexact.shows registers, ?_⟩⟩
  · obtain ⟨-, owner, hkept⟩ := hexact
    exact hkept.counts _ _ ((hkept.owns v hv).registered name rule hrule).2
  · intro more hmore stays
    obtain ⟨hhits, hadded⟩ := run_grows stays
    have hshows := (hexact.run hmore).shows (stays more List.prefix_rfl)
    rw [hadded] at hshows
    exact ⟨_, hhits.sublist.count_le _, hshows⟩

/-- A rule has another action when its first version is found, in a snapshot that is held. Then the
second version is found as well. -/
def heldVersion : List Move :=
  [.event (.operation (.addRule (.ofFields [("name", "any")]))),
    .event (.operation (.addRuleList (.ofFields [("name", "main"), ("rules", .array ["any"])]))),
    .hold,
    .event (.operation (.setPath .rule "any" "/action/route" "out")),
    .evaluate (some 0) "main" (.ofFields []),
    .lookUp none "main" (.ofFields [])]

theorem run_hitCounts_heldVersion :
    (∀ m ∈ heldVersion, m.isChecked = true) ∧
      (run heldVersion (fresh false)).Registers "any" ∧
      (run heldVersion (fresh false)).Shows "any" 2 := by
  have hchecked : ∀ m ∈ heldVersion, m.isChecked = true := by
    simp [heldVersion, Move.isChecked, Event.isChecked]
  have hregisters : (run heldVersion (fresh false)).Registers "any" := by
    decide +kernel
  have hcount : (run heldVersion (fresh false)).hits.count
      ("any", (run heldVersion (fresh false)).added "any") = 2 := by
    decide +kernel
  have hshows := ((run_hitCounts hchecked).2 "any" hregisters).1
  rw [hcount] at hshows
  exact ⟨hchecked, hregisters, hshows⟩

end Tally

end Switchboard
