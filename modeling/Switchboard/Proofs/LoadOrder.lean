/-
The order of entries in static configurations.

A section of a configuration refers to earlier sections only. So its entries can be added in any
order, as long as none of them needs a default name: those come one after the other. What is loaded
can be told from the inventory at the start, and is the same for all orders, and so is whether
anything fails.

* `StaticConfig.Named`, `Rearranges`: the entries have names, and are in another order;
* `contents?`: what a configuration comes to, told from an inventory;
* `contents?_of_rearranges`: entries in another order come to the same;
* `load_loads`: loading comes to the contents;
* `load_registers`: listeners are bound to lists of rules that are registered;
* `load_order`: **configurations load the same in any order, and listeners find their lists of
  rules**.
-/
import Switchboard.Config.Static
import Switchboard.Proofs.Config.Inventory

namespace Switchboard

open Table (fill?)

namespace Admin

/-- An added list has the name that its definition gives. -/
theorem addRuleList_eq_ok {strict : Bool} {v answer : Json} {s next : Snapshot}
    {res later : Resources} (h : addRuleList strict v s res = (.ok (answer, next), later)) :
    ∃ d list, RuleListDefinition.decode v = .ok d ∧ (∀ n ∈ d.name, list.name = n) ∧
      next = s.putRuleList list := by
  unfold addRuleList at h
  split at h
  · cases h
  · next d hdecode =>
    split at h
    · cases h
    · next name res hname =>
      exact ⟨d, _, decodeAs_eq_ok hdecode, (chooseName_eq_ok hname).1,
        (buildRuleList_eq_ok h).1⟩

end Admin

namespace StaticConfig

/-! ### Names -/

/-- What a value is read as, if anything, is as it is asked for. -/
def ReadsAs {α : Type} (decode : Decoder α) (asked : α → Prop) (v : Json) : Prop :=
  ∀ d, decode v = .ok d → asked d

/-- All entries that need a name have one: those of the sections, and the rules in lists of rules.
Clusters cannot be without, and the lists of listeners may be. -/
structure Named (config : StaticConfig) : Prop where
  routes : ∀ v ∈ config.routes, ReadsAs RouteDefinition.decode (fun d => d.name.isSome = true) v
  rules : ∀ v ∈ config.rules, ReadsAs RuleDefinition.decode (fun d => d.name.isSome = true) v
  ruleLists : ∀ v ∈ config.ruleLists, ReadsAs RuleListDefinition.decode
    (fun d => d.name.isSome = true ∧ ∀ r ∈ d.rules, r.HasName) v

instance : DecidablePred RuleReference.HasName
  | .named _ => isTrue nofun
  | .inline d => decidable_of_iff (d.name.isSome = true)
    ⟨fun h _ hd => Reference.inline.inj hd ▸ h, fun h => h d rfl⟩

instance {α : Type} (decode : Decoder α) (asked : α → Prop) [DecidablePred asked] :
    DecidablePred (ReadsAs decode asked) := fun v =>
  match h : decode v with
  | .ok d => decidable_of_iff (asked d)
    ⟨fun ha _ hd => Except.ok.inj (h.symm.trans hd) ▸ ha, fun ha => ha d h⟩
  | .error _ => isTrue fun _ hd => nomatch h.symm.trans hd

instance (config : StaticConfig) : Decidable config.Named :=
  decidable_of_iff (_ ∧ _ ∧ _)
    ⟨fun ⟨routes, rules, ruleLists⟩ => ⟨routes, rules, ruleLists⟩,
      fun ⟨routes, rules, ruleLists⟩ => ⟨routes, rules, ruleLists⟩⟩

/-! ### Contents -/

/-- The names of the lists of rules that listeners are bound to. -/
def bound? (strict : Bool) (listener : String) (i : Inventory) :
    RuleListBinding → Option (String × Inventory)
  | .named name => if Table.has i.ruleLists name then some (name, i) else none
  | .inline d =>
    let name := d.name.getD (listener ++ "_rules")
    (i.listed? strict { d with name := some name }.encode).map fun i => (name, i)

/-- The listeners to open. -/
def listeners? (strict : Bool) (defaultLimit : Nat) :
    List ListenerDefinition → Inventory → Option (List ListenerConfig × Inventory)
  | [], i => some ([], i)
  | d :: rest, i =>
    (bound? strict d.name i d.rules).bind fun (ruleList, i) =>
      (listeners? strict defaultLimit rest i).map fun (configs, i) =>
        (⟨d.name, d.bind, ruleList, d.maxConnections.getD defaultLimit⟩ :: configs, i)

/-- What a configuration comes to, section by section. -/
def contents? (config : StaticConfig) (strict : Bool) (defaultLimit : Nat) (i : Inventory) :
    Option (List ListenerConfig × Inventory) :=
  (fill? Inventory.clusterAddition? config.clusters i.clusters).bind fun clusters =>
  let i := { i with clusters }
  (fill? (i.routeAddition? strict) config.routes i.routes).bind fun routes =>
  let i := { i with routes }
  (fill? (Inventory.ruleAddition? strict) config.rules i.rules).bind fun rules =>
  let i := { i with rules }
  (fill? (i.listAddition? strict) config.ruleLists i.ruleLists).bind fun ruleLists =>
  listeners? strict defaultLimit config.listeners { i with ruleLists }

/-- The sections have the same entries, and the listeners are in the same order. -/
structure Rearranges (config other : StaticConfig) : Prop where
  clusters : config.clusters.Perm other.clusters
  routes : config.routes.Perm other.routes
  rules : config.rules.Perm other.rules
  ruleLists : config.ruleLists.Perm other.ruleLists
  listeners : config.listeners = other.listeners

/-- Entries in another order come to the same. -/
theorem contents?_of_rearranges {config other : StaticConfig} (h : config.Rearranges other)
    (strict : Bool) (defaultLimit : Nat) (i : Inventory) :
    config.contents? strict defaultLimit i = other.contents? strict defaultLimit i := by
  unfold contents?
  simp only [Table.fill?_perm _ h.clusters, Table.fill?_perm _ h.routes,
    Table.fill?_perm _ h.rules, Table.fill?_perm _ h.ruleLists, h.listeners]

/-! ### Loading -/

/-- The answer and the inventory that a step of loading leads to, if it succeeds. -/
def reached? {α : Type} : Except LoadFault α × Proxy → Option (α × Inventory)
  | (.ok a, p) => some (a, p.registry.inventory)
  | (.error _, _) => none

/-- The step leads to an answer and an inventory, or it fails if `after` is none. -/
structure Loads {α : Type} (p : Proxy) (result : Except LoadFault α × Proxy)
    (after : Option (α × Inventory)) : Prop where
  stocked : result.2.registry.Stocked
  strict : result.2.strict = p.strict
  outcome : reached? result = after

variable {p : Proxy}

/-- A section is loaded by filling its table. -/
theorem loadSection_loads {β : Type} (sectionName : String) {add : Json → Admin.Edit Json}
    {addition? : Json → Option (String × β)} (put : Table β → Inventory) (k : Nat) {vs : List Json}
    (hadd : ∀ v ∈ vs, ∀ (r : Registry) (t : Table β), r.Stocked → r.inventory = put t →
      r.Comes (add v) ((Table.put? t (addition? v)).map put))
    {t : Table β} (hstocked : p.registry.Stocked) (hput : p.registry.inventory = put t) :
    Loads p (loadSection sectionName add k vs p)
      ((fill? addition? vs t).map fun t => ((), put t)) := by
  -- the table so far is all that entries of one section know of each other
  induction vs generalizing p t k with
  | nil => exact ⟨hstocked, rfl, by rw [fill?, Option.map_some, ← hput]; rfl⟩
  | cons v rest ih =>
    obtain ⟨hlater, hreached⟩ := hadd v List.mem_cons_self p.registry t hstocked hput
    rw [fill?, loadSection, Proxy.update]
    rcases hupdate : p.registry.update (add v) with ⟨f | answer, registry⟩
    · rw [hupdate] at hlater hreached
      have hnone : Table.put? t (addition? v) = none := Option.map_eq_none_iff.mp hreached.symm
      rw [hnone]
      exact ⟨hlater, rfl, rfl⟩
    · rw [hupdate] at hlater hreached
      obtain ⟨next, hnext, hinventory⟩ := Option.map_eq_some_iff.mp hreached.symm
      rw [hnext]
      have hrest := ih (p := { p with registry }) (k + 1)
        (fun v hv => hadd v (List.mem_cons_of_mem _ hv)) hlater hinventory.symm
      exact ⟨hrest.stocked, hrest.strict, hrest.outcome⟩

/-- One section after the other. -/
theorem andThen_loads {α β : Type} {before : Except LoadFault Unit × Proxy}
    {next : Proxy → Except LoadFault α × Proxy} {filled : Option β} {put : β → Inventory}
    {rest : β → Option (α × Inventory)}
    (hbefore : Loads p before (filled.map fun b => ((), put b)))
    (hnext : ∀ q b, q.registry.Stocked → q.strict = p.strict → q.registry.inventory = put b →
      Loads q (next q) (rest b)) : Loads p (andThen before next) (filled.bind rest) := by
  obtain ⟨hstocked, hstrict, hreached⟩ := hbefore
  rcases before with ⟨f | _, q⟩
  · have hnone : filled = none := Option.map_eq_none_iff.mp hreached.symm
    rw [hnone]
    exact ⟨hstocked, hstrict, rfl⟩
  · obtain ⟨b, rfl, hb⟩ := Option.map_eq_some_iff.mp hreached.symm
    obtain ⟨hlater, hsame, houtcome⟩ := hnext q b hstocked hstrict (congrArg Prod.snd hb).symm
    exact ⟨hlater, hsame.trans hstrict, houtcome⟩

/-- The list that a listener defines is stored under the name that the listener is bound to. -/
theorem name_of_decode {d e : RuleListDefinition} (h : RuleListDefinition.decode d.encode = .ok e) :
    e.name = d.name := by
  obtain ⟨fields, hencode, hname, -⟩ := RuleListDefinition.exists_fields d
  rw [hencode] at h
  obtain ⟨r, hr, h⟩ := Except.bind_eq_ok.mp h
  cases hr
  obtain ⟨-, -, h⟩ := Except.bind_eq_ok.mp h
  obtain ⟨name, hread, h⟩ := Except.bind_eq_ok.mp h
  obtain ⟨rules, -, h⟩ := Except.bind_eq_ok.mp h
  cases h
  rw [Decode.Record.field_optional_string hname] at hread
  exact (Except.ok.inj hread).symm

/-- A binding comes to what can be told from the inventory. -/
theorem bindRules_loads (h : p.registry.Stocked) (listener : String) (binding : RuleListBinding) :
    Loads p (bindRules listener p binding)
      (bound? p.strict listener p.registry.inventory binding) := by
  cases binding with
  | named name =>
    have hhas : Table.has p.registry.inventory.ruleLists name =
        (p.registry.current.ruleList? name).isSome := by
      rw [Registry.inventory, Table.has_mapValues]
      rfl
    rw [bound?, hhas, bindRules, Admin.getRuleList, Admin.ruleListOf]
    cases p.registry.current.ruleList? name with
    | none => exact ⟨h, rfl, rfl⟩
    | some list => exact ⟨h, rfl, rfl⟩
  | inline d =>
    rw [bound?, bindRules]
    generalize d.name.getD (listener ++ "_rules") = name
    have named (e : RuleListDefinition)
        (he : RuleListDefinition.decode (RuleListDefinition.encode ⟨some name, d.rules⟩) = .ok e) :
        e.name.isSome = true := by
      rw [name_of_decode he]
      rfl
    obtain ⟨hlater, hreached⟩ := Registry.addRuleList_comes p.strict h named
    rw [Proxy.update, ← hreached]
    generalize p.registry.update _ = result at hlater
    rcases result with ⟨f | answer, registry⟩
    · exact ⟨hlater, rfl, rfl⟩
    · exact ⟨hlater, rfl, rfl⟩

theorem Loads.map {α β : Type} {result : Except LoadFault α × Proxy}
    {after : Option (α × Inventory)} (h : Loads p result after) (f : α → β) :
    Loads p (result.1.map f, result.2) (after.map fun x => (f x.1, x.2)) := by
  obtain ⟨hstocked, hstrict, rfl⟩ := h
  rcases result with ⟨fault | a, q⟩
  · exact ⟨hstocked, hstrict, rfl⟩
  · exact ⟨hstocked, hstrict, rfl⟩

theorem loadListeners_loads (h : p.registry.Stocked) (defaultLimit : Nat)
    (ds : List ListenerDefinition) : Loads p (loadListeners defaultLimit ds p)
      (listeners? p.strict defaultLimit ds p.registry.inventory) := by
  induction ds generalizing p with
  | nil => exact ⟨h, rfl, rfl⟩
  | cons d rest ih =>
    obtain ⟨hlater, hstrict, hreached⟩ := bindRules_loads h d.name d.rules
    rw [listeners?, loadListeners, ← hreached]
    generalize bindRules d.name p d.rules = bound at hlater hstrict
    rcases bound with ⟨f | ruleList, q⟩
    · exact ⟨hlater, hstrict, rfl⟩
    · obtain ⟨hlast, hsame, houtcome⟩ := (ih hlater).map fun configs =>
        ListenerConfig.mk d.name d.bind ruleList (d.maxConnections.getD defaultLimit) :: configs
      refine ⟨hlast, hsame.trans hstrict, ?_⟩
      rw [show q.strict = p.strict from hstrict] at houtcome
      exact houtcome

/-- Loading comes to the contents of the configuration. -/
theorem load_loads {config : StaticConfig} (named : config.Named) (h : p.registry.Stocked)
    (defaultLimit : Nat) : Loads p (config.load defaultLimit p)
      (config.contents? p.strict defaultLimit p.registry.inventory) := by
  unfold load contents?
  generalize hi : p.registry.inventory = i
  -- Every section adds to one table, and its checks look at the tables before it.
  refine andThen_loads
    (loadSection_loads "clusters" (fun clusters => { i with clusters }) 0 ?_ h hi)
    fun p₁ clusters h₁ hstrict₁ hi₁ => ?_
  · intro v _ r t hr hput
    simpa only [hput] using Registry.addCluster_comes (v := v) hr p.wallTime
  rw [hstrict₁]
  refine andThen_loads
    (loadSection_loads "routes" (fun routes => { i with clusters, routes }) 0 ?_ h₁ hi₁)
    fun p₂ routes h₂ hstrict₂ hi₂ => ?_
  · intro v hv r t hr hput
    have hadd := Registry.addRoute_comes p.strict hr (named.routes v hv)
    rw [hput] at hadd
    exact hadd
  rw [hstrict₂, hstrict₁]
  refine andThen_loads
    (loadSection_loads "rules" (fun rules => { i with clusters, routes, rules }) 0 ?_ h₂ hi₂)
    fun p₃ rules h₃ hstrict₃ hi₃ => ?_
  · intro v hv r t hr hput
    simpa only [hput] using Registry.addRule_comes p.strict hr (named.rules v hv)
  rw [hstrict₃, hstrict₂, hstrict₁]
  refine andThen_loads
    (loadSection_loads "rulelists"
      (fun ruleLists => { i with clusters, routes, rules, ruleLists }) 0 ?_ h₃ hi₃)
    fun p₄ ruleLists h₄ hstrict₄ hi₄ => ?_
  · intro v hv r t hr hput
    have hnamed := named.ruleLists v hv
    have hadd := Registry.addRuleList_comes p.strict hr fun d hd => (hnamed d hd).1
    rw [Inventory.listed?_eq p.strict _ hnamed, hput] at hadd
    exact hadd
  rw [← hstrict₁, ← hstrict₂, ← hstrict₃, ← hstrict₄, ← hi₄]
  exact loadListeners_loads h₄ defaultLimit config.listeners

/-! ### Lists of rules of listeners -/

/-- A list of rules is registered under a name. -/
def Registers (p : Proxy) (name : String) : Prop :=
  (p.registry.current.ruleList? name).isSome = true

/-- The list that a listener is bound to is registered, and no other list goes for it. -/
theorem bindRules_registers {q : Proxy} {listener name : String} {binding : RuleListBinding}
    (h : bindRules listener p binding = (.ok name, q)) :
    Registers q name ∧ ∀ n, Registers p n → Registers q n := by
  cases binding with
  | named wished =>
    rw [bindRules] at h
    split at h
    · cases h
    · next hfound =>
      cases h
      obtain ⟨list, hlist, -⟩ := Except.map_eq_ok.mp hfound
      refine ⟨?_, fun _ => id⟩
      rw [Registers, Admin.ruleListOf_eq_ok.mp hlist]
      rfl
  | inline d =>
    rw [bindRules] at h
    split at h
    · cases h
    · next hupdate =>
      cases h
      obtain ⟨next, later, hadd, hq⟩ := Proxy.update_eq_ok hupdate
      obtain ⟨e, list, hdecode, hname, rfl⟩ := Admin.addRuleList_eq_ok hadd
      have hown : list.name = d.name.getD (listener ++ "_rules") :=
        hname _ (name_of_decode hdecode)
      rw [← hown]
      refine ⟨?_, fun n hn => ?_⟩ <;> rw [Registers, hq]
      · show (Table.find? (Table.insert _ _ _) _).isSome = true
        rw [Table.find?_insert_self]
        rfl
      · exact Table.isSome_find?_insert list hn

theorem loadListeners_registers {q : Proxy} {defaultLimit : Nat} {ds : List ListenerDefinition}
    {listeners : List ListenerConfig}
    (h : loadListeners defaultLimit ds p = (.ok listeners, q)) :
    (∀ l ∈ listeners, Registers q l.ruleList) ∧ ∀ n, Registers p n → Registers q n := by
  induction ds generalizing p listeners with
  | nil =>
    cases h
    exact ⟨nofun, fun _ => id⟩
  | cons d rest ih =>
    rw [loadListeners] at h
    split at h
    · cases h
    · next ruleList between hbound =>
      obtain ⟨hregistered, hkept⟩ := bindRules_registers hbound
      obtain ⟨hresult, hlast⟩ := Prod.ext_iff.mp h
      obtain ⟨configs, hconfigs, rfl⟩ := Except.map_eq_ok.mp hresult
      obtain ⟨hrest, hkeptLater⟩ := ih (Prod.ext hconfigs hlast)
      refine ⟨List.forall_mem_cons.mpr ⟨hkeptLater _ hregistered, hrest⟩, fun n hn => ?_⟩
      exact hkeptLater n (hkept n hn)

theorem andThen_eq_ok {α : Type} {before : Except LoadFault Unit × Proxy}
    {next : Proxy → Except LoadFault α × Proxy} {a : α} {q : Proxy}
    (h : andThen before next = (.ok a, q)) : ∃ between, next between = (.ok a, q) := by
  unfold andThen at h
  split at h
  · cases h
  · next between => exact ⟨between, h⟩

/-- The listeners come last. -/
theorem load_registers {config : StaticConfig} {defaultLimit : Nat} {q : Proxy}
    {listeners : List ListenerConfig} (h : config.load defaultLimit p = (.ok listeners, q)) :
    ∀ l ∈ listeners, Registers q l.ruleList := by
  obtain ⟨_, h⟩ := andThen_eq_ok h
  obtain ⟨_, h⟩ := andThen_eq_ok h
  obtain ⟨_, h⟩ := andThen_eq_ok h
  obtain ⟨_, h⟩ := andThen_eq_ok h
  exact (loadListeners_registers h).1

/-! ### Order -/

theorem Named.rearranged {config other : StaticConfig} (named : config.Named)
    (h : config.Rearranges other) : other.Named where
  routes := fun v hv => named.routes v (h.routes.mem_iff.mpr hv)
  rules := fun v hv => named.rules v (h.rules.mem_iff.mpr hv)
  ruleLists := fun v hv => named.ruleLists v (h.ruleLists.mem_iff.mpr hv)

theorem reached?_eq_some {α : Type} {result : Except LoadFault α × Proxy} {a : α}
    {i : Inventory} :
    reached? result = some (a, i) ↔ result.1 = .ok a ∧ result.2.registry.inventory = i := by
  rcases result with ⟨f | b, q⟩
  · exact iff_of_false nofun nofun
  · rw [reached?, Option.some_inj, Prod.mk.injEq, Except.ok.injEq]

/-- A configuration whose entries have names is loaded into an empty registry in one order of its
entries if it is in another, with the same listeners and definitions. Whatever is loaded, listeners
are bound to lists of rules that are registered. -/
theorem load_order {config other : StaticConfig} {p : Proxy} (defaultLimit : Nat)
    (empty : p.registry.current = .empty) (named : config.Named) (h : config.Rearranges other) :
    ((∃ listeners, (config.load defaultLimit p).1 = .ok listeners) ↔
      ∃ listeners, (other.load defaultLimit p).1 = .ok listeners) ∧
    (∀ listeners, (config.load defaultLimit p).1 = .ok listeners →
      (other.load defaultLimit p).1 = .ok listeners ∧
      (other.load defaultLimit p).2.registry.inventory =
        (config.load defaultLimit p).2.registry.inventory) ∧
    ∀ (loaded : StaticConfig) (q : Proxy) (listeners : List ListenerConfig),
      (loaded.load defaultLimit q).1 = .ok listeners →
        ∀ l ∈ listeners, Registers (loaded.load defaultLimit q).2 l.ruleList := by
  have stocked : p.registry.Stocked := by
    intro e he
    rw [empty] at he
    cases he
  have hsame : reached? (config.load defaultLimit p) = reached? (other.load defaultLimit p) := by
    rw [(load_loads named stocked defaultLimit).outcome,
      (load_loads (named.rearranged h) stocked defaultLimit).outcome, contents?_of_rearranges h]
  have hone (listeners : List ListenerConfig)
      (hload : (config.load defaultLimit p).1 = .ok listeners) :=
    reached?_eq_some.mp (hsame.symm.trans (reached?_eq_some.mpr ⟨hload, rfl⟩))
  refine ⟨⟨fun ⟨listeners, hload⟩ => ⟨listeners, (hone listeners hload).1⟩, ?_⟩, hone, ?_⟩
  · rintro ⟨listeners, hload⟩
    exact ⟨listeners,
      (reached?_eq_some.mp (hsame.trans (reached?_eq_some.mpr ⟨hload, rfl⟩))).1⟩
  · exact fun loaded q listeners hload => load_registers (Prod.ext hload rfl)

/-- Two of everything, with a list of rules that a listener defines itself. -/
def twofold : StaticConfig where
  clusters :=
    [.ofFields [("name", "echo"), ("spec", .ofFields [("protocol", "echo")])],
      .ofFields [("name", "sink"), ("spec", .ofFields [("protocol", "echo")])]]
  routes :=
    [.ofFields [("name", "to-echo"), ("destination", "echo")],
      .ofFields [("name", "to-sink"), ("destination", "sink")]]
  rules :=
    [.ofFields [("name", "any"), ("match", "*"), ("action", .ofFields [("route", "to-echo")])],
      .ofFields [("name", "rest"), ("match", "*"), ("action", .ofFields [("route", "to-sink")])]]
  ruleLists :=
    [.ofFields [("name", "main"), ("rules", .array ["any", .ofFields [("name", "own")]])],
      .ofFields [("name", "spare"), ("rules", .array ["rest", "any"])]]
  listeners :=
    [⟨"front", ⟨.v4 [127, 0, 0, 1], 0, 8080⟩, .named "main", none⟩,
      ⟨"side", ⟨.v4 [127, 0, 0, 1], 0, 8081⟩,
        .inline ⟨none, [.inline ⟨none, .wildcard, .ofFields [("route", "to-echo")]⟩]⟩, some 4⟩]

/-- All sections but the last backwards. -/
def backwards (config : StaticConfig) : StaticConfig where
  clusters := config.clusters.reverse
  routes := config.routes.reverse
  rules := config.rules.reverse
  ruleLists := config.ruleLists.reverse
  listeners := config.listeners

theorem load_order_twofold :
    twofold.Named ∧ twofold.Rearranges twofold.backwards ∧
    ∃ listeners, listeners.map ListenerConfig.ruleList = ["main", "side_rules"] ∧
      (twofold.load 100 (.fresh true)).1 = .ok listeners ∧
      (twofold.backwards.load 100 (.fresh true)).1 = .ok listeners ∧
      (twofold.backwards.load 100 (.fresh true)).2.registry.inventory =
        (twofold.load 100 (.fresh true)).2.registry.inventory ∧
      ∀ l ∈ listeners, Registers (twofold.load 100 (.fresh true)).2 l.ruleList := by
  have named : twofold.Named := by decide +kernel
  have hbackwards : twofold.Rearranges twofold.backwards :=
    ⟨(List.reverse_perm _).symm, (List.reverse_perm _).symm, (List.reverse_perm _).symm,
      (List.reverse_perm _).symm, rfl⟩
  obtain ⟨-, hsame, hregistered⟩ :=
    load_order (p := .fresh true) 100 rfl named hbackwards
  have hlists : ((twofold.load 100 (.fresh true)).1.map
      (List.map ListenerConfig.ruleList)).toOption = some ["main", "side_rules"] := by
    decide +kernel
  cases hload : (twofold.load 100 (.fresh true)).1 with
  | error f =>
    rw [hload] at hlists
    cases hlists
  | ok listeners =>
    rw [hload] at hlists
    obtain ⟨hother, hinventory⟩ := hsame listeners hload
    exact ⟨named, hbackwards, listeners, Option.some.inj hlists, rfl, hother, hinventory,
      hregistered twofold (.fresh true) listeners hload⟩

end StaticConfig

end Switchboard
