/-
Definitions that are written and read again.

There are many ways to write a definition: as an object or as an array, with defaults left out,
under other names of its fields. Whatever is read is written in one form, and this form is read as
the same definition, though a reference or a stage is read by trying one form after the other. Each
record takes two steps: what is in the fields of a record that was read can be read again, and a
record with such fields can be read again.

* `RoundTrips`: what is written of a value that was read is read as the value;
* `RoundTrips.list`, `RoundTrips.reference`, `field_readsBack`: lists, references and fields;
* `RouteDefinition.Sound`: a route whose parts are read back, whatever its name is;
* `definitions_roundTrip`: all definitions.
-/
import Switchboard.Definition.Action
import Switchboard.Definition.Listener
import Switchboard.Proofs.Net.Address
import Switchboard.Proofs.Routing.Rule

namespace Switchboard

namespace Decode

/-! ### Values -/

/-- What is written of the value is read as the value. -/
def ReadsBack {α : Type} (decode : Decoder α) (encode : α → Json) (a : α) : Prop :=
  decode (encode a) = .ok a

/-- What is written of a value that was read is read as the value. -/
def RoundTrips {α : Type} (decode : Decoder α) (encode : α → Json) : Prop :=
  ∀ v a, decode v = .ok a → ReadsBack decode encode a

theorem natural_roundTrips (limit : Nat) (type : String) :
    RoundTrips (natural limit type) Json.nat := by
  intro v n h
  unfold natural at h
  split at h
  · next i =>
    by_cases hrange : 0 ≤ i ∧ i ≤ limit
    · rw [if_pos hrange] at h
      cases h
      have : 0 ≤ (i.toNat : Int) ∧ (i.toNat : Int) ≤ limit := by omega
      simp only [ReadsBack, Json.nat, natural, if_pos this, Int.toNat_natCast]
    · rw [if_neg hrange] at h
      cases h
  · cases h

variable {α : Type} {decode : Decoder α} {encode : α → Json}

theorem RoundTrips.list (h : RoundTrips decode encode) {v : Json} {as : List α}
    (has : list decode v = .ok as) : ∀ a ∈ as, ReadsBack decode encode a := by
  unfold Decode.list at has
  split at has
  · intro a ha
    obtain ⟨w, -, hw⟩ := exists_of_mem_items has ha
    exact h w a hw
  · cases has

theorem list_readsBack {as : List α} (h : ∀ a ∈ as, ReadsBack decode encode a) :
    ReadsBack (Decode.list decode) (fun as => .array (as.map encode)) as := by
  have hread : items decode (as.map encode) = .ok (as.map id) := items_map h
  rwa [List.map_id] at hread

/-- What is there of an optional value can be read again. -/
theorem RoundTrips.optional (h : RoundTrips decode encode) {v : Json} {a : α}
    (ha : optional decode v = .ok (some a)) : ReadsBack decode encode a := by
  unfold Decode.optional at ha
  split at ha
  · cases ha
  · cases hread : decode v with
    | error f =>
      rw [hread] at ha
      cases ha
    | ok b =>
      rw [hread] at ha
      cases ha
      exact h v a hread

theorem optional_eq_some {v : Json} {a : α} (hnull : v ≠ .null) (h : decode v = .ok a) :
    optional decode v = .ok (some a) := by
  unfold optional
  split
  · exact absurd rfl hnull
  · rw [h]
    rfl

/-- A name or a definition is read back if no definition is written as a name. -/
theorem RoundTrips.reference (type : String) (h : RoundTrips decode encode)
    (hname : ∀ a s, encode a ≠ .string s) :
    RoundTrips (Reference.decode type decode) (Reference.encode encode) := by
  intro v r hr
  unfold Reference.decode at hr
  split at hr
  · cases hr
    rfl
  · split at hr
    · next d hd =>
      cases hr
      rw [ReadsBack, Reference.encode]
      unfold Reference.decode
      -- what is written of a definition would be taken for a name if it were a string
      split
      · next s hs => exact absurd hs (hname d s)
      · rw [show decode (encode d) = .ok d from h v d hd]
    · cases hr

/-! ### Fields of records -/

namespace Record

variable {type : RecordType} {name : String} {default : Option α} {a : α}

/-- What was read of a field satisfies what all values that are read do, and the default. -/
theorem field_induction {r : Record} {P : α → Prop} (ha : r.field type name decode default = .ok a)
    (hread : ∀ v, decode v = .ok a → P a) (hdefault : ∀ b ∈ default, P b) : P a := by
  unfold Record.field at ha
  split at ha
  · exact hread _ ha
  · split at ha
    · next b =>
      cases ha
      exact hdefault a rfl
    · cases ha

/-- What is there of an optional field can be read again. -/
theorem optional_readsBack {r : Record} (h : RoundTrips decode encode)
    (ha : r.field type name (optional decode) (some none) = .ok (some a)) :
    ReadsBack decode encode a :=
  field_induction (P := fun o => ∀ a, o = some a → ReadsBack decode encode a) ha
    (fun _ hread _ hsome => h.optional (hsome ▸ hread)) (fun b hb => by cases hb; simp) a rfl

/-- An optional field that is left out where there is nothing is read back. -/
theorem field_optional {fields : List (String × Json)} {o : Option α}
    (hfind : Table.find? fields name = o.map encode)
    (h : ∀ a ∈ o, encode a ≠ .null ∧ ReadsBack decode encode a) :
    (named fields).field type name (optional decode) (some none) = .ok o := by
  cases o with
  | none => simp only [field, find?, hfind, Option.map_none]
  | some a =>
    obtain ⟨hnull, hread⟩ := h a rfl
    rw [field_of_find? hfind]
    exact optional_eq_some hnull hread

theorem field_optional_string {fields : List (String × Json)} {o : Option String}
    (hfind : Table.find? fields name = o.map Json.string) :
    (named fields).field type name (optional string) (some none) = .ok o :=
  field_optional hfind fun _ _ => ⟨nofun, rfl⟩

end Record

end Decode

/-! ### Fields as they are written -/

namespace Table

variable {β : Type} {key name : String} (o : Option β) (encode : β → Json)

/-- The field that is written for an optional value. -/
theorem find?_toList_self :
    find? (o.toList.map fun b => (key, encode b)).reverse key = o.map encode := by
  cases o <;> simp [find?]

theorem find?_toList_of_ne (h : key ≠ name) :
    find? (o.toList.map fun b => (key, encode b)).reverse name = none := by
  cases o <;> simp [find?, h]

end Table

/-! ### Rules and lists of rules -/

section Definitions

open Decode

theorem Match.roundTrips : RoundTrips (fun v => .ok (Match.ofJson v)) Match.toJson := by
  intro v m h
  cases h
  exact congrArg Except.ok (Match.written_ofJson v)

namespace RuleDefinition

/-- The fields that are written. -/
theorem exists_fields (d : RuleDefinition) : ∃ fields, d.encode = .object fields ∧
    Table.find? fields "name" = d.name.map Json.string ∧
    Table.find? fields "match" = some d.condition.toJson ∧
    Table.find? fields "action" = some d.action := by
  refine ⟨_, rfl, ?_, ?_, ?_⟩ <;> simp [Table.find?_ofList, Table.find?_toList_self, Table.find?]

theorem readsBack {d : RuleDefinition} (h : d.condition.Written) :
    ReadsBack decode encode d := by
  obtain ⟨fields, hencode, hname, hcondition, haction⟩ := exists_fields d
  have hwritten : Match.ofJson d.condition.toJson = d.condition := h
  rw [ReadsBack, hencode, decode]
  simp (disch := simp) only [record, bind, Except.bind, Record.field_optional_string hname,
    Record.field_of_find? hcondition, Record.field_of_find? haction, hwritten, fault?,
    Record.settle_eq_ok, pure, Except.pure]

theorem roundTrips : RoundTrips decode encode :=
  fun _ _ h => readsBack (written_of_decode h)

end RuleDefinition

theorem RuleReference.roundTrips : RoundTrips RuleReference.decode RuleReference.encode :=
  RuleDefinition.roundTrips.reference _ nofun

namespace RuleListDefinition

theorem exists_fields (d : RuleListDefinition) : ∃ fields, d.encode = .object fields ∧
    Table.find? fields "name" = d.name.map Json.string ∧
    Table.find? fields "rules" = some (.array (d.rules.map RuleReference.encode)) := by
  refine ⟨_, rfl, ?_, ?_⟩ <;> simp [Table.find?_ofList, Table.find?_toList_self, Table.find?]

theorem readsBack {d : RuleListDefinition}
    (h : ∀ r ∈ d.rules, ReadsBack RuleReference.decode RuleReference.encode r) :
    ReadsBack decode encode d := by
  obtain ⟨fields, hencode, hname, hrules⟩ := exists_fields d
  have hread :
      list RuleReference.decode (.array (d.rules.map RuleReference.encode)) = .ok d.rules :=
    list_readsBack h
  rw [ReadsBack, hencode, decode]
  simp (disch := simp) only [record, bind, Except.bind, Record.field_optional_string hname,
    Record.field_of_find? hrules, hread, fault?, Record.settle_eq_ok, pure, Except.pure]

theorem roundTrips : RoundTrips decode encode := by
  intro v d h
  obtain ⟨r, -, hrules⟩ := rules_of_decode h
  exact readsBack <| Record.field_induction
    (P := fun rs => ∀ r ∈ rs, ReadsBack RuleReference.decode RuleReference.encode r) hrules
    (fun _ => RuleReference.roundTrips.list) (by simp)

end RuleListDefinition

theorem RuleListBinding.roundTrips : RoundTrips RuleListBinding.decode RuleListBinding.encode :=
  RuleListDefinition.roundTrips.reference _ nofun

/-! ### Clusters -/

namespace ClusterKind

/-- The fields that are written for a cluster with endpoints. -/
theorem exists_fields_tcp (endpoints : List String) (timeout : Nat) :
    ∃ fields, (tcp endpoints timeout).encode = .object fields ∧
      Table.find? fields "protocol" = some (.string "tcp") ∧
      Table.find? fields "endpoints" = some (.array (endpoints.map .string)) ∧
      Table.find? fields "connect_timeout_ms" = some (.nat timeout) := by
  refine ⟨_, rfl, ?_, ?_, ?_⟩ <;> simp [Table.find?_ofList, Table.find?]

theorem readsBack_tcp (numbers : Bool) (endpoints : List String) {timeout : Nat}
    (h : ReadsBack natural64 Json.nat timeout) :
    ReadsBack (decode numbers) encode (tcp endpoints timeout) := by
  obtain ⟨fields, hencode, hprotocol, hendpoints, htimeout⟩ := exists_fields_tcp endpoints timeout
  have hread : list string (.array (endpoints.map .string)) = .ok endpoints :=
    list_readsBack fun _ _ => rfl
  have htime : natural64 (.nat timeout) = .ok timeout := h
  rw [ReadsBack, hencode]
  simp (disch := simp) only [decode, hprotocol, Protocol.decode, decodeBody, bind, Except.bind,
    Record.field_of_find? hendpoints, Record.field_of_find? htimeout, hread, htime, fault?,
    Record.settle_eq_ok, pure, Except.pure]

theorem body_of_decode {numbers : Bool} {v : Json} {kind : ClusterKind}
    (h : decode numbers v = .ok kind) : ∃ r protocol, decodeBody r protocol = .ok kind := by
  unfold decode at h
  split at h
  · split at h
    · cases h
    · obtain ⟨protocol, -, h⟩ := Except.bind_eq_ok.mp h
      exact ⟨_, protocol, h⟩
  · cases h
  · obtain ⟨protocol, -, h⟩ := Except.bind_eq_ok.mp h
    exact ⟨_, protocol, h⟩
  · cases h

theorem roundTrips (numbers : Bool) : RoundTrips (decode numbers) encode := by
  intro v kind h
  obtain ⟨r, protocol, hbody⟩ := body_of_decode h
  cases protocol with
  | tcp =>
    obtain ⟨-, -, hbody⟩ := Except.bind_eq_ok.mp hbody
    obtain ⟨endpoints, -, hbody⟩ := Except.bind_eq_ok.mp hbody
    obtain ⟨timeout, htimeout, hbody⟩ := Except.bind_eq_ok.mp hbody
    cases hbody
    refine readsBack_tcp numbers endpoints (Record.field_induction htimeout ?_ ?_)
    · exact fun w hw => natural_roundTrips _ _ w timeout hw
    · intro n hn
      cases hn
      rfl
  | echo =>
    -- whatever else stands there is not kept
    have hkind : kind = echo := by
      rcases r with fields | items
      · cases hbody
        rfl
      · cases items <;> cases hbody
        rfl
    rw [hkind]
    rfl

end ClusterKind

namespace ClusterDefinition

theorem exists_fields (d : ClusterDefinition) : ∃ fields, d.encode = .object fields ∧
    Table.find? fields "name" = some (.string d.name) ∧
    Table.find? fields "spec" = some d.kind.encode ∧
    Table.find? fields "retriable" = some (.bool d.retriable) := by
  refine ⟨_, rfl, ?_, ?_, ?_⟩ <;> simp [Table.find?_ofList, Table.find?]

theorem readsBack {numbers : Bool} {d : ClusterDefinition}
    (h : ReadsBack (ClusterKind.decode numbers) ClusterKind.encode d.kind) :
    ReadsBack (decode numbers) encode d := by
  obtain ⟨fields, hencode, hname, hkind, hretriable⟩ := exists_fields d
  have hread : ClusterKind.decode numbers d.kind.encode = .ok d.kind := h
  rw [ReadsBack, hencode, decode]
  simp (disch := simp) only [record, bind, Except.bind, Record.field_of_find? hname,
    Record.field_of_find? hkind, Record.field_of_find? hretriable, string, hread, boolean, fault?,
    Record.settle_eq_ok, pure, Except.pure]

theorem kind_of_decode {numbers : Bool} {v : Json} {d : ClusterDefinition}
    (h : decode numbers v = .ok d) : ∃ r : Record,
      r.field type "spec" (ClusterKind.decode numbers) none = .ok d.kind := by
  obtain ⟨r, -, h⟩ := Except.bind_eq_ok.mp h
  obtain ⟨-, -, h⟩ := Except.bind_eq_ok.mp h
  obtain ⟨name, -, h⟩ := Except.bind_eq_ok.mp h
  obtain ⟨kind, hkind, h⟩ := Except.bind_eq_ok.mp h
  obtain ⟨retriable, -, h⟩ := Except.bind_eq_ok.mp h
  cases h
  exact ⟨r, hkind⟩

theorem roundTrips (numbers : Bool) : RoundTrips (decode numbers) encode := by
  intro v d h
  obtain ⟨r, hkind⟩ := kind_of_decode h
  exact readsBack <| Record.field_induction hkind
    (fun w => ClusterKind.roundTrips numbers w d.kind) (by simp)

end ClusterDefinition

theorem ClusterReference.roundTrips : RoundTrips ClusterReference.decode ClusterReference.encode :=
  (ClusterDefinition.roundTrips true).reference _ nofun

/-! ### Routes -/

namespace RetryPolicy

theorem exists_fields (d : RetryPolicy) : ∃ fields, d.encode = .object fields ∧
    Table.find? fields "retry_on" = some (.string d.retryOn.text) ∧
    Table.find? fields "num_retries" = some (.nat d.retries) ∧
    Table.find? fields "timeout" = some (.nat d.timeout) := by
  refine ⟨_, rfl, ?_, ?_, ?_⟩ <;> simp [Table.find?_ofList, Table.find?]

theorem readsBack {d : RetryPolicy} (hretries : ReadsBack natural32 Json.nat d.retries)
    (htimeout : ReadsBack natural64 Json.nat d.timeout) : ReadsBack decode encode d := by
  obtain ⟨fields, hencode, hon, hfind, htime⟩ := exists_fields d
  have htext : RetryOn.decode (.string d.retryOn.text) = .ok d.retryOn := by
    cases d.retryOn <;> rfl
  have hretries : natural32 (.nat d.retries) = .ok d.retries := hretries
  have htimeout : natural64 (.nat d.timeout) = .ok d.timeout := htimeout
  rw [ReadsBack, hencode, decode]
  simp (disch := simp) only [record, bind, Except.bind, Record.field_of_find? hon,
    Record.field_of_find? hfind, Record.field_of_find? htime, htext, hretries, htimeout, fault?,
    Record.settle_eq_ok, pure, Except.pure]

theorem roundTrips : RoundTrips decode encode := by
  intro v d h
  obtain ⟨r, -, h⟩ := Except.bind_eq_ok.mp h
  obtain ⟨-, -, h⟩ := Except.bind_eq_ok.mp h
  obtain ⟨retryOn, -, h⟩ := Except.bind_eq_ok.mp h
  obtain ⟨retries, hretries, h⟩ := Except.bind_eq_ok.mp h
  obtain ⟨timeout, htimeout, h⟩ := Except.bind_eq_ok.mp h
  cases h
  refine readsBack (Record.field_induction hretries (fun w => natural_roundTrips _ _ w retries) ?_)
    (Record.field_induction htimeout (fun w => natural_roundTrips _ _ w timeout) ?_) <;>
  · intro n hn
    cases hn
    rfl

end RetryPolicy

namespace PathWrite

theorem exists_fields (d : PathWrite) : ∃ fields, d.encode = .object fields ∧
    Table.find? fields "path" = some (.string d.path) ∧
    Table.find? fields "value" = some d.value := by
  refine ⟨_, rfl, ?_, ?_⟩ <;> simp [Table.find?_ofList, Table.find?]

theorem readsBack (d : PathWrite) : ReadsBack decode encode d := by
  obtain ⟨fields, hencode, hpath, hvalue⟩ := exists_fields d
  rw [ReadsBack, hencode, decode]
  simp (disch := simp) only [record, bind, Except.bind, Record.field_of_find? hpath,
    Record.field_of_find? hvalue, string, fault?, Record.settle_eq_ok, pure, Except.pure]

theorem list_readsBack (writes : List PathWrite) :
    list decode (.array (writes.map encode)) = .ok writes :=
  Decode.list_readsBack fun d _ => readsBack d

end PathWrite

namespace StageDefinition

theorem written_of_decode {v : Json} {condition : Match} (h : decode v = .ok (filter condition)) :
    condition.Written := by
  unfold decode at h
  split at h
  · cases h
  · split at h
    · cases h
    · cases h
      exact Match.written_ofJson _
    · cases h
  · cases h

theorem roundTrips : RoundTrips decode encode := by
  intro v d h
  -- the forms are tried one after the other, and what is written has the key of only one of them
  cases d with
  | named name => rfl
  | write writes =>
    have hread := PathWrite.list_readsBack writes
    simp only [ReadsBack, encode, Json.ofFields, decode, Table.find?_ofList,
      List.reverse_singleton, Table.find?, if_true, Option.map_some, hread]
  | filter condition =>
    have hcondition : Match.ofJson condition.toJson = condition := written_of_decode h
    simp [ReadsBack, encode, Json.ofFields, decode, Table.find?_ofList, Table.find?, hcondition]

end StageDefinition

/-- A route whose parts are read back. Its name is not looked at. -/
structure RouteDefinition.Sound (d : RouteDefinition) : Prop where
  destination : ReadsBack ClusterReference.decode ClusterReference.encode d.destination
  ingress : ∀ stage ∈ d.ingress, ReadsBack StageDefinition.decode StageDefinition.encode stage
  retry : ReadsBack RetryPolicy.decode RetryPolicy.encode d.retry

namespace RouteDefinition

theorem exists_fields (d : RouteDefinition) : ∃ fields, d.encode = .object fields ∧
    Table.find? fields "name" = d.name.map Json.string ∧
    Table.find? fields "destination" = some (ClusterReference.encode d.destination) ∧
    Table.find? fields destinationAlias = none ∧
    Table.find? fields "ingress" = some (.array (d.ingress.map StageDefinition.encode)) ∧
    Table.find? fields "retry" = some d.retry.encode := by
  refine ⟨_, rfl, ?_, ?_, ?_, ?_, ?_⟩ <;>
    simp [Table.find?_ofList, Table.find?_toList_self, Table.find?_toList_of_ne, Table.find?,
      destinationAlias]

theorem Sound.readsBack {d : RouteDefinition} (h : d.Sound) : ReadsBack decode encode d := by
  obtain ⟨fields, hencode, hname, hdestination, halias, hingress, hretry⟩ := exists_fields d
  have hcluster : ClusterReference.decode (ClusterReference.encode d.destination)
      = .ok d.destination := h.destination
  have hstages : list StageDefinition.decode (.array (d.ingress.map StageDefinition.encode))
      = .ok d.ingress := list_readsBack h.ingress
  have hpolicy : RetryPolicy.decode d.retry.encode = .ok d.retry := h.retry
  rw [ReadsBack, hencode, decode]
  simp (disch := simp) only [record, bind, Except.bind, Record.field_optional_string hname,
    decodeDestination, Record.find?, halias, Record.field_of_find? hdestination,
    Record.field_of_find? hingress, Record.field_of_find? hretry, hcluster, hstages, hpolicy,
    fault?, Record.settle_eq_ok, pure, Except.pure]

/-- A destination that was read under either of its names is read back. -/
theorem destination_readsBack {r : Record} {destination : ClusterReference}
    (h : (decodeDestination r).2 = .ok destination) :
    ReadsBack ClusterReference.decode ClusterReference.encode destination := by
  unfold decodeDestination at h
  split at h
  · next v fields _ =>
    obtain ⟨found, hfound, h⟩ := Except.bind_eq_ok.mp h
    split at h
    · cases h
    · cases h
      exact ClusterReference.roundTrips v destination hfound
  · have h : Record.field _ type "destination" ClusterReference.decode none
        = .ok destination := h
    exact Record.field_induction h (fun w => ClusterReference.roundTrips w destination) (by simp)

/-- What is read has parts that are read back. -/
theorem sound_of_decode {v : Json} {d : RouteDefinition} (h : decode v = .ok d) : d.Sound := by
  obtain ⟨r, -, h⟩ := Except.bind_eq_ok.mp h
  obtain ⟨-, -, h⟩ := Except.bind_eq_ok.mp h
  obtain ⟨name, -, h⟩ := Except.bind_eq_ok.mp h
  obtain ⟨destination, hdestination, h⟩ := Except.bind_eq_ok.mp h
  obtain ⟨ingress, hingress, h⟩ := Except.bind_eq_ok.mp h
  obtain ⟨retry, hretry, h⟩ := Except.bind_eq_ok.mp h
  cases h
  refine ⟨?_, ?_, ?_⟩
  · exact destination_readsBack hdestination
  · exact Record.field_induction
      (P := fun ds => ∀ d ∈ ds, ReadsBack StageDefinition.decode StageDefinition.encode d) hingress
      (fun _ => StageDefinition.roundTrips.list) (by simp)
  · refine Record.field_induction hretry (fun w => RetryPolicy.roundTrips w retry) ?_
    intro policy hpolicy
    cases hpolicy
    exact RetryPolicy.readsBack rfl rfl

theorem roundTrips : RoundTrips decode encode := fun _ _ h => (sound_of_decode h).readsBack

end RouteDefinition

theorem RouteReference.roundTrips : RoundTrips RouteReference.decode RouteReference.encode :=
  RouteDefinition.roundTrips.reference _ nofun

/-! ### Listeners and actions -/

namespace ListenerDefinition

/-- An address that was read is read back from its canonical text. -/
theorem address_roundTrips : RoundTrips decodeAddress fun a => .string a.render := by
  intro v a h
  unfold decodeAddress at h
  split at h
  · split at h
    · next found hfound =>
      cases h
      have hread := SocketAddress.parse?_render (SocketAddress.fits_of_parse? hfound)
      simp only [ReadsBack, decodeAddress, hread]
    · cases h
  · cases h

theorem exists_fields (d : ListenerDefinition) : ∃ fields, d.encode = .object fields ∧
    Table.find? fields "name" = some (.string d.name) ∧
    Table.find? fields "bind" = some (.string d.bind.render) ∧
    Table.find? fields "rulelist" = some (RuleListBinding.encode d.rules) ∧
    Table.find? fields "max_connections" = d.maxConnections.map Json.nat := by
  refine ⟨_, rfl, ?_, ?_, ?_, ?_⟩ <;>
    simp [Table.find?_ofList, Table.find?_append, Table.find?_toList_self,
      Table.find?_toList_of_ne, Table.find?]

theorem readsBack {d : ListenerDefinition}
    (hbind : ReadsBack decodeAddress (fun a => .string a.render) d.bind)
    (hrules : ReadsBack RuleListBinding.decode RuleListBinding.encode d.rules)
    (hlimit : ∀ n ∈ d.maxConnections, ReadsBack size Json.nat n) : ReadsBack decode encode d := by
  obtain ⟨fields, hencode, hname, haddress, hlist, hmax⟩ := exists_fields d
  have hbind : decodeAddress (.string d.bind.render) = .ok d.bind := hbind
  have hrules : RuleListBinding.decode (RuleListBinding.encode d.rules) = .ok d.rules := hrules
  have hlimit : (Record.named fields).field type "max_connections" (optional size) (some none)
      = .ok d.maxConnections := Record.field_optional hmax fun n hn => ⟨nofun, hlimit n hn⟩
  rw [ReadsBack, hencode, decode]
  simp (disch := simp) only [record, Bind.bind, Except.bind, Record.field_of_find? hname, string,
    Record.field_of_find? haddress, Record.field_of_find? hlist, hbind, hrules, hlimit, fault?,
    Record.settle_eq_ok, pure, Except.pure]

theorem roundTrips : RoundTrips decode encode := by
  intro v d h
  obtain ⟨r, -, h⟩ := Except.bind_eq_ok.mp h
  obtain ⟨-, -, h⟩ := Except.bind_eq_ok.mp h
  obtain ⟨name, -, h⟩ := Except.bind_eq_ok.mp h
  obtain ⟨bind, hbind, h⟩ := Except.bind_eq_ok.mp h
  obtain ⟨rules, hrules, h⟩ := Except.bind_eq_ok.mp h
  obtain ⟨limit, hlimit, h⟩ := Except.bind_eq_ok.mp h
  cases h
  refine readsBack (Record.field_induction hbind (fun w => address_roundTrips w bind) (by simp))
    (Record.field_induction hrules (fun w => RuleListBinding.roundTrips w rules) (by simp)) ?_
  rintro n rfl
  exact Record.optional_readsBack (natural_roundTrips _ _) hlimit

end ListenerDefinition

namespace Action

theorem exists_fields (d : Action) : ∃ fields, d.encode = .object fields ∧
    Table.find? fields "route" = d.route.map RouteReference.encode ∧
    Table.find? fields "apply" = d.apply.map Json.string ∧
    Table.find? fields "set" = d.fields.map Json.object ∧
    Table.find? fields "rewrite" =
      if d.writes.isEmpty then none else some (.array (d.writes.map PathWrite.encode)) := by
  refine ⟨_, rfl, ?_, ?_, ?_, ?_⟩ <;>
  · by_cases hwrites : d.writes.isEmpty <;>
      simp [Table.find?_ofList, Table.find?_append, Table.find?_toList_self,
        Table.find?_toList_of_ne, Table.find?, hwrites]

theorem readsBack {d : Action}
    (h : ∀ r ∈ d.route, ReadsBack RouteReference.decode RouteReference.encode r) :
    ReadsBack decode encode d := by
  obtain ⟨fields, hencode, hroute, happly, hset, hwrites⟩ := exists_fields d
  have hroute : (Record.named fields).field type "route" (optional RouteReference.decode)
      (some none) = .ok d.route :=
    Record.field_optional hroute fun r hr => ⟨by cases r <;> nofun, h r hr⟩
  have hset : (Record.named fields).field type "set" (optional Decode.fields) (some none)
      = .ok d.fields := Record.field_optional hset fun _ _ => ⟨nofun, rfl⟩
  -- a list without writes is left out, and is the default
  have hwrites : (Record.named fields).field type "rewrite" (list PathWrite.decode) (some [])
      = .ok d.writes := by
    by_cases hempty : d.writes.isEmpty
    · rw [if_pos hempty] at hwrites
      simp only [Record.field, Record.find?, hwrites, List.isEmpty_iff.mp hempty]
    · rw [if_neg hempty] at hwrites
      rw [Record.field_of_find? hwrites]
      exact PathWrite.list_readsBack d.writes
  rw [ReadsBack, hencode, decode]
  simp (disch := simp) only [record, bind, Except.bind, hroute,
    Record.field_optional_string happly, hset, hwrites, fault?, Record.settle_eq_ok, pure,
    Except.pure]

theorem roundTrips : RoundTrips decode encode := by
  intro v d h
  obtain ⟨r, -, h⟩ := Except.bind_eq_ok.mp h
  obtain ⟨-, -, h⟩ := Except.bind_eq_ok.mp h
  obtain ⟨route, hroute, h⟩ := Except.bind_eq_ok.mp h
  obtain ⟨apply, -, h⟩ := Except.bind_eq_ok.mp h
  obtain ⟨set, -, h⟩ := Except.bind_eq_ok.mp h
  obtain ⟨writes, -, h⟩ := Except.bind_eq_ok.mp h
  cases h
  refine readsBack ?_
  rintro r rfl
  exact Record.optional_readsBack RouteReference.roundTrips hroute

end Action

/-! ### All definitions -/

/-- **What is written of a definition is read as the definition.** -/
theorem definitions_roundTrip :
    RoundTrips RuleDefinition.decode RuleDefinition.encode ∧
    RoundTrips RuleReference.decode RuleReference.encode ∧
    RoundTrips RuleListDefinition.decode RuleListDefinition.encode ∧
    RoundTrips RouteDefinition.decode RouteDefinition.encode ∧
    RoundTrips RouteReference.decode RouteReference.encode ∧
    (∀ numbers, RoundTrips (ClusterDefinition.decode numbers) ClusterDefinition.encode) ∧
    RoundTrips ClusterReference.decode ClusterReference.encode ∧
    RoundTrips ListenerDefinition.decode ListenerDefinition.encode ∧
    RoundTrips RuleListBinding.decode RuleListBinding.encode ∧
    RoundTrips StageDefinition.decode StageDefinition.encode ∧
    RoundTrips PathWrite.decode PathWrite.encode ∧
    RoundTrips (fun v => .ok (Match.ofJson v)) Match.toJson ∧
    RoundTrips RetryPolicy.decode RetryPolicy.encode ∧
    RoundTrips Action.decode Action.encode :=
  ⟨RuleDefinition.roundTrips, RuleReference.roundTrips, RuleListDefinition.roundTrips,
    RouteDefinition.roundTrips, RouteReference.roundTrips, ClusterDefinition.roundTrips,
    ClusterReference.roundTrips, ListenerDefinition.roundTrips, RuleListBinding.roundTrips,
    StageDefinition.roundTrips, fun _ d _ => PathWrite.readsBack d, Match.roundTrips,
    RetryPolicy.roundTrips, Action.roundTrips⟩

/-- A route with a cluster of its own, written as arrays and under the other name of its field. -/
def arrayRoute : Json := .object
  [("cluster", .array ["pool", .array [.nat 0, .array ["h:1"]], false]),
    ("ingress", .array [.object [("filter", .null), ("rewrite", "none")]]),
    ("retry", .array ["always"])]

/-- A listener with a list of its own, and with an address that is not in its canonical form. -/
def arrayListener : Json := .array ["edge", "[0:0::FFFF:10.0.0.1%07]:080",
  .array [.null, .array ["r", .array [.null, .object [("eq", true)]]]]]

theorem definitions_roundTrip_arrays :
    (∃ d, RouteDefinition.decode arrayRoute = .ok d ∧ RouteDefinition.decode d.encode = .ok d) ∧
    ∃ d, ListenerDefinition.decode arrayListener = .ok d ∧
      d.bind.render = "[::ffff:10.0.0.1%7]:80" ∧ ListenerDefinition.decode d.encode = .ok d := by
  obtain ⟨-, -, -, hroute, -, -, -, hlistener, -⟩ := definitions_roundTrip
  exact ⟨⟨_, rfl, hroute arrayRoute _ rfl⟩,
    _, rfl, by decide +kernel, hlistener arrayListener _ rfl⟩

end Definitions

end Switchboard
