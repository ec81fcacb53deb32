import Mathlib.Logic.Relation
import PacketDiversion.Proofs.Settings.Reading

/-!
# The layout of a document

What settings a document describes does not depend on how it is laid out: the order of its keys,
keys that nobody reads, and fields that say what is so anyway change nothing (`layout_immaterial`).
One change of a table leaves what the table gives for each field (`Form.Relaid.given_eq`), so one
change of a document leaves its settings, and so does any number of changes.
-/

namespace PacketDiversion

open Toml Form

/-! ### Lookups -/

section Lookups

variable {a b before after : Table} {key k : String} {v : Value}

theorem lookup_of_perm (distinct : Distinct a) (order : a.Perm b) :
    a.lookup key = b.lookup key := by
  have hdistinct : Distinct b := (order.map Prod.fst).nodup distinct
  ext v
  rw [distinct.lookup_eq_some_iff, hdistinct.lookup_eq_some_iff, order.mem_iff]

theorem lookup_insert_of_ne (h : key ≠ k) :
    (before ++ (k, v) :: after).lookup key = (before ++ after).lookup key := by
  have hfirst : List.lookup key ((k, v) :: after) = after.lookup key := by
    rw [List.lookup_cons, beq_false_of_ne h]
  rw [List.lookup_append, List.lookup_append, hfirst]

theorem lookup_change_of_ne {w : Value} (h : key ≠ k) :
    (before ++ (k, v) :: after).lookup key = (before ++ (k, w) :: after).lookup key := by
  rw [lookup_insert_of_ne h, lookup_insert_of_ne h]

theorem lookup_insert_self (absent : key ∉ before.map Prod.fst) :
    (before ++ (key, v) :: after).lookup key = some v := by
  rw [List.lookup_append, lookup_eq_none_iff_notMem.mpr absent, Option.none_or,
    List.lookup_cons_self]

theorem distinct_insert (distinct : Distinct (before ++ after))
    (absent : key ∉ (before ++ after).map Prod.fst) :
    Distinct (before ++ (key, v) :: after) := by
  have order : ((before ++ (key, v) :: after).map Prod.fst).Perm
      (key :: (before ++ after).map Prod.fst) := List.perm_middle.map Prod.fst
  exact order.nodup_iff.mpr (List.nodup_cons.mpr ⟨absent, distinct⟩)

theorem distinct_change {w : Value} (distinct : Distinct (before ++ (key, v) :: after)) :
    Distinct (before ++ (key, w) :: after) := by
  rw [Distinct, List.map_append, List.map_cons] at distinct ⊢
  exact distinct

theorem notMem_before (distinct : Distinct (before ++ (key, v) :: after)) :
    key ∉ before.map Prod.fst := by
  rw [Distinct, List.map_append, List.nodup_append] at distinct
  intro mem
  exact distinct.2.2 key mem key (by simp) rfl

theorem mem_insert_iff {e x : String × Value} :
    e ∈ before ++ x :: after ↔ e = x ∨ e ∈ before ++ after := by
  rw [List.perm_middle.mem_iff, List.mem_cons]

end Lookups

/-! ### Changes of one table -/

/-- A change in how a table is laid out, for a form of the table and the entries that write out a
default of its fields. -/
inductive Form.Relaid (form : Form) (defaults : Table) : Table → Table → Prop
  | permuted {a b : Table} (order : a.Perm b) : Relaid form defaults a b
  /-- A key that the form does not declare is added, with any value. -/
  | unknown {before after : Table} {key : String} (v : Value)
    (undeclared : key ∉ form.fields.map Prod.fst)
    (absent : key ∉ (before ++ after).map Prod.fst) :
    Relaid form defaults (before ++ after) (before ++ (key, v) :: after)
  /-- The value of a key that the form does not declare is changed. -/
  | unread {before after : Table} {key : String} (v w : Value)
    (undeclared : key ∉ form.fields.map Prod.fst) :
    Relaid form defaults (before ++ (key, v) :: after) (before ++ (key, w) :: after)
  /-- A field that the table does not have is written out with its default. -/
  | written {before after : Table} {key : String} {v : Value} (default : (key, v) ∈ defaults)
    (absent : key ∉ (before ++ after).map Prod.fst) :
    Relaid form defaults (before ++ after) (before ++ (key, v) :: after)

namespace Form.Relaid

variable {α : Type} {form : Form} {defaults a b : Table} {key : String}
  {read : Value → Except Mismatch α} {d : Option α}

theorem distinct (change : form.Relaid defaults a b) (distinct : Distinct a) : Distinct b := by
  cases change with
  | permuted order => exact (order.map Prod.fst).nodup distinct
  | unknown v undeclared absent => exact distinct_insert distinct absent
  | unread v w undeclared => exact distinct_change distinct
  | written default absent => exact distinct_insert distinct absent

theorem given_eq_of_lookup (same : a.lookup key = b.lookup key) :
    given read d key a = given read d key b := by
  rw [given, given, same]

/-- A change leaves what the table gives for a field, if the entries that write out its default read
as this default. -/
theorem given_eq (change : form.Relaid defaults a b) (distinct : Distinct a)
    (declared : key ∈ form.fields.map Prod.fst)
    (standard : ∀ e ∈ defaults, e.1 = key → (read e.2).toOption = d) :
    given read d key a = given read d key b := by
  have apart : ∀ {k : String}, k ∉ form.fields.map Prod.fst → key ≠ k := by
    rintro k undeclared rfl
    exact undeclared declared
  cases change with
  | permuted order => exact given_eq_of_lookup (lookup_of_perm distinct order)
  | unknown v undeclared absent =>
    exact given_eq_of_lookup (lookup_insert_of_ne (apart undeclared)).symm
  | unread v w undeclared =>
    exact given_eq_of_lookup (lookup_change_of_ne (apart undeclared))
  | @written before after k v default absent =>
    -- the new entry is found under its own key, where nothing stood before, and under no other
    by_cases hkey : key = k
    · subst hkey
      have hbefore : key ∉ before.map Prod.fst := by
        intro mem
        rw [List.map_append] at absent
        exact absent (List.mem_append_left _ mem)
      rw [given, given, lookup_eq_none_iff_notMem.mpr absent, lookup_insert_self hbefore]
      exact (standard (key, v) default rfl).symm
    · exact given_eq_of_lookup (lookup_insert_of_ne hkey).symm

end Form.Relaid

/-! ### Sections -/

inductive Section
  | session
  | queue
  | relay
  | logging

namespace Section

def key : Section → String
  | session => "session"
  | queue => "queue"
  | relay => "relay"
  | logging => "logging"

def form : Section → Form
  | session => SessionSettings.form
  | queue => QueueSettings.form
  | relay => RelaySettings.form
  | logging => LoggingSettings.form

/-- The entries that write out a default. A layer can be written as a table as well. -/
def defaults : Section → Table
  | session => [("layer", .string "network"), ("layer", .table [("network", .table [])]),
    ("priority", .integer 0), ("flags", .array [])]
  | queue => []
  | relay => [("batch", .integer 16), ("buffer_size", .integer 65575), ("reinject", .boolean true)]
  | logging => [("spec", .string "divert=info"), ("directory", .string "logs")]

theorem key_inj {p q : Section} (h : p.key = q.key) : p = q := by
  cases p <;> cases q <;> first | rfl | exact absurd h (by decide)

end Section

section Sections

variable {a b : Table}

theorem SessionSettings.toOption_of_relaid
    (change : Section.session.form.Relaid Section.session.defaults a b) (distinct : Distinct a) :
    (ofValue (.table a)).toOption = (ofValue (.table b)).toOption := by
  have hfilter : given text none "filter" a = given text none "filter" b :=
    change.given_eq distinct (by decide) (by decide)
  have hlayer : given Form.layer (some default) "layer" a
      = given Form.layer (some default) "layer" b :=
    change.given_eq distinct (by decide) (by decide)
  have hpriority : given int16 (some Priority.default) "priority" a
      = given int16 (some Priority.default) "priority" b :=
    change.given_eq distinct (by decide) (by decide)
  have hflags : given texts (some []) "flags" a = given texts (some []) "flags" b :=
    change.given_eq distinct (by decide) (by decide)
  refine toOption_congr fun s => ?_
  rw [ofValue_eq_ok_iff distinct, ofValue_eq_ok_iff (change.distinct distinct), hfilter, hlayer,
    hpriority, hflags]

theorem QueueSettings.toOption_of_relaid
    (change : Section.queue.form.Relaid Section.queue.defaults a b) (distinct : Distinct a) :
    (ofValue (.table a)).toOption = (ofValue (.table b)).toOption := by
  have hfield : ∀ key ∈ Section.queue.form.fields.map Prod.fst,
      given (fun v => (word64 v).map some) (some none) key a
        = given (fun v => (word64 v).map some) (some none) key b :=
    fun key declared => change.given_eq distinct declared (by simp [Section.defaults])
  refine toOption_congr fun q => ?_
  rw [ofValue_eq_ok_iff distinct, ofValue_eq_ok_iff (change.distinct distinct),
    hfield "length" (by decide), hfield "time" (by decide), hfield "size" (by decide)]

theorem RelaySettings.toOption_of_relaid
    (change : Section.relay.form.Relaid Section.relay.defaults a b) (distinct : Distinct a) :
    (ofValue (.table a)).toOption = (ofValue (.table b)).toOption := by
  have hbatch : given Form.size (some 16) "batch" a = given Form.size (some 16) "batch" b :=
    change.given_eq distinct (by decide) (by decide)
  have hsize : given Form.size (some packetRoom) "buffer_size" a
      = given Form.size (some packetRoom) "buffer_size" b :=
    change.given_eq distinct (by decide) (by decide)
  have hreinject : given boolean (some true) "reinject" a
      = given boolean (some true) "reinject" b :=
    change.given_eq distinct (by decide) (by decide)
  refine toOption_congr fun r => ?_
  rw [ofValue_eq_ok_iff distinct, ofValue_eq_ok_iff (change.distinct distinct), hbatch, hsize,
    hreinject]

theorem LoggingSettings.toOption_of_relaid
    (change : Section.logging.form.Relaid Section.logging.defaults a b) (distinct : Distinct a) :
    (ofValue (.table a)).toOption = (ofValue (.table b)).toOption := by
  have hspec : given text (some "divert=info") "spec" a
      = given text (some "divert=info") "spec" b :=
    change.given_eq distinct (by decide) (by decide)
  have hdirectory : given path (some "logs") "directory" a
      = given path (some "logs") "directory" b :=
    change.given_eq distinct (by decide) (by decide)
  refine toOption_congr fun l => ?_
  rw [ofValue_eq_ok_iff distinct, ofValue_eq_ok_iff (change.distinct distinct), hspec, hdirectory]

end Sections

/-! ### Changes of a document -/

namespace Settings

/-- The sections that may be missing, each as an empty one. -/
def defaults : Table := [("queue", .table []), ("relay", .table []), ("logging", .table [])]

/-- A change in how a document is laid out, at its top level or within a section. -/
inductive Relaid : Table → Table → Prop
  | top {t u : Table} (change : form.Relaid defaults t u) : Relaid t u
  | within {before after a b : Table} (part : Section)
    (change : part.form.Relaid part.defaults a b) :
    Relaid (before ++ (part.key, .table a) :: after) (before ++ (part.key, .table b) :: after)

/-- Keys are distinct at the top level and in every section. -/
structure Tidy (t : Table) : Prop where
  distinct : Distinct t
  parts : ∀ (part : Section) (a : Table), (part.key, .table a) ∈ t → Distinct a

theorem tidy_of_keyed {t : Table} (keyed : (Value.table t).Keyed) : Tidy t := by
  cases keyed with
  | table distinct keyed =>
    refine ⟨distinct, fun part a mem => ?_⟩
    cases keyed _ mem with
    | table distinct _ => exact distinct

variable {t u : Table}

theorem Section.key_mem (part : Section) : part.key ∈ form.fields.map Prod.fst := by
  cases part <;> decide

theorem Tidy.relaid (tidy : Tidy t) (change : Relaid t u) : Tidy u := by
  cases change with
  | top change =>
    refine ⟨change.distinct tidy.distinct, fun part a mem => ?_⟩
    cases change with
    | permuted order => exact tidy.parts part a (order.mem_iff.mpr mem)
    | unknown v undeclared absent =>
      rcases mem_insert_iff.mp mem with hnew | hold
      · cases hnew
        exact absurd (Section.key_mem part) undeclared
      · exact tidy.parts part a hold
    | unread v w undeclared =>
      rcases mem_insert_iff.mp mem with hnew | hold
      · cases hnew
        exact absurd (Section.key_mem part) undeclared
      · exact tidy.parts part a (mem_insert_iff.mpr (.inr hold))
    | written default absent =>
      rcases mem_insert_iff.mp mem with hnew | hold
      · cases hnew
        have hempty : ∀ e ∈ Settings.defaults, e.2 = .table [] := by simp [Settings.defaults]
        cases hempty _ default
        exact List.nodup_nil
      · exact tidy.parts part a hold
  | @within before after a b part change =>
    refine ⟨distinct_change tidy.distinct, fun other c mem => ?_⟩
    rcases mem_insert_iff.mp mem with hnew | hold
    · have hvalue : Value.table c = .table b := congrArg Prod.snd hnew
      cases hvalue
      exact change.distinct (tidy.parts part a (mem_insert_iff.mpr (.inl rfl)))
    · exact tidy.parts other c (mem_insert_iff.mpr (.inr hold))

/-- A change within a section leaves what the document gives for each section, if the changed
section reads as before. -/
theorem given_within {α : Type} {read : Value → Except Mismatch α} {d : Option α} {key k : String}
    {before after a b : Table} (distinct : Distinct (before ++ (k, .table a) :: after))
    (same : k = key → (read (.table a)).toOption = (read (.table b)).toOption) :
    given read d key (before ++ (k, .table a) :: after)
      = given read d key (before ++ (k, .table b) :: after) := by
  by_cases hkey : k = key
  · subst hkey
    have absent := notMem_before distinct
    rw [given, given, lookup_insert_self absent, lookup_insert_self absent]
    exact same rfl
  · exact Form.Relaid.given_eq_of_lookup (lookup_change_of_ne (Ne.symm hkey))

theorem toOption_ofTable_of_given (ht : Distinct t) (hu : Distinct u)
    (session : given SessionSettings.ofValue none "session" t
      = given SessionSettings.ofValue none "session" u)
    (queue : given QueueSettings.ofValue (some {}) "queue" t
      = given QueueSettings.ofValue (some {}) "queue" u)
    (relay : given RelaySettings.ofValue (some {}) "relay" t
      = given RelaySettings.ofValue (some {}) "relay" u)
    (logging : given LoggingSettings.ofValue (some {}) "logging" t
      = given LoggingSettings.ofValue (some {}) "logging" u) :
    (ofTable t).toOption = (ofTable u).toOption := by
  refine toOption_congr fun s => ?_
  rw [ofTable_eq_ok_iff ht, ofTable_eq_ok_iff hu, session, queue, relay, logging]

theorem toOption_ofTable_of_relaid (tidy : Tidy t) (change : Relaid t u) :
    (ofTable t).toOption = (ofTable u).toOption := by
  have hu := (tidy.relaid change).distinct
  cases change with
  | top change =>
    exact toOption_ofTable_of_given tidy.distinct hu
      (change.given_eq tidy.distinct (by decide) (by decide))
      (change.given_eq tidy.distinct (by decide) (by decide))
      (change.given_eq tidy.distinct (by decide) (by decide))
      (change.given_eq tidy.distinct (by decide) (by decide))
  | @within before after a b part change =>
    have ha : Distinct a := tidy.parts part a (mem_insert_iff.mpr (.inl rfl))
    refine toOption_ofTable_of_given tidy.distinct hu (given_within tidy.distinct fun hkey => ?_)
      (given_within tidy.distinct fun hkey => ?_) (given_within tidy.distinct fun hkey => ?_)
      (given_within tidy.distinct fun hkey => ?_)
    · obtain rfl : part = .session := Section.key_inj hkey
      exact SessionSettings.toOption_of_relaid change ha
    · obtain rfl : part = .queue := Section.key_inj hkey
      exact QueueSettings.toOption_of_relaid change ha
    · obtain rfl : part = .relay := Section.key_inj hkey
      exact RelaySettings.toOption_of_relaid change ha
    · obtain rfl : part = .logging := Section.key_inj hkey
      exact LoggingSettings.toOption_of_relaid change ha

theorem toOption_ofDocument_of_relaid (tidy : Tidy t)
    (changes : Relation.ReflTransGen Relaid t u) :
    Tidy u ∧ (ofDocument t).toOption = (ofDocument u).toOption := by
  -- tidiness is carried along: among entries of one key, the order decides which one is read
  induction changes with
  | refl => exact ⟨tidy, rfl⟩
  | tail _ change ih =>
    obtain ⟨tidy, same⟩ := ih
    refine ⟨tidy.relaid change, same.trans (toOption_congr fun s => ?_)⟩
    have htable := toOption_ofTable_of_relaid tidy change
    rw [ofDocument_eq_ok_iff, ofDocument_eq_ok_iff, ← toOption_eq_some_iff, htable,
      toOption_eq_some_iff]

/-- Keys may stand in any order, keys that no one reads may be added, and what is so by default may
be written out: the settings are the same, or there are none both times. -/
theorem layout_immaterial {text : String} (read : Toml.Document.read text = some t)
    (relaid : Relation.ReflTransGen Relaid t u) :
    (ofDocument u).toOption = (parse text).toOption
      ∧ ∀ other, Toml.Document.read other = some u →
        (parse other).toOption = (parse text).toOption := by
  have tidy := tidy_of_keyed (Toml.Document.keyed_of_read read)
  obtain ⟨-, same⟩ := toOption_ofDocument_of_relaid tidy relaid
  refine ⟨by rw [parse_of_read read, same], fun other hother => ?_⟩
  rw [parse_of_read read, parse_of_read hother, same]

def shortText : String := "[session]\nfilter = \"true\"\npriority = 7\n"

def longText : String :=
  "unread = 1\n[relay]\nbatch = 16\n[session]\npriority = 7\nmode = \"old\"\n"
    ++ "layer = \"network\"\nfilter = \"true\"\n"

theorem short_text_relaid :
    (parse longText).toOption = (parse shortText).toOption ∧ (parse longText).toOption.isSome := by
  have hshort : Toml.Document.read shortText
      = some [("session", .table [("filter", .string "true"), ("priority", .integer 7)])] := by
    decide +kernel
  have hlong : Toml.Document.read longText
      = some [("unread", .integer 1), ("relay", .table [("batch", .integer 16)]),
        ("session", .table [("priority", .integer 7), ("mode", .string "old"),
          ("layer", .string "network"), ("filter", .string "true")])] := by
    decide +kernel
  have order : Relaid [("session", .table [("filter", .string "true"), ("priority", .integer 7)])]
      [("session", .table [("priority", .integer 7), ("filter", .string "true")])] :=
    @Relaid.within [] [] _ _ .session (.permuted (.swap ..))
  have mode : Relaid [("session", .table [("priority", .integer 7), ("filter", .string "true")])]
      [("session", .table [("priority", .integer 7), ("mode", .string "old"),
        ("filter", .string "true")])] :=
    @Relaid.within [] [] _ _ .session
      (@Form.Relaid.unknown _ _ [_] [_] "mode" (.string "old") (by decide) (by decide))
  have layer : Relaid
      [("session", .table [("priority", .integer 7), ("mode", .string "old"),
        ("filter", .string "true")])]
      [("session", .table [("priority", .integer 7), ("mode", .string "old"),
        ("layer", .string "network"), ("filter", .string "true")])] :=
    @Relaid.within [] [] _ _ .session
      (@Form.Relaid.written _ _ [_, _] [_] "layer" _ (.head _) (by decide))
  have relay : ∀ session, Relaid [("session", session)]
      [("relay", .table []), ("session", session)] := fun session =>
    .top (@Form.Relaid.written _ _ [] [_] "relay" _ (.tail _ (.head _)) (by simp))
  have batch : ∀ session, Relaid [("relay", .table []), ("session", session)]
      [("relay", .table [("batch", .integer 16)]), ("session", session)] := fun session =>
    @Relaid.within [] [_] _ _ .relay
      (@Form.Relaid.written _ _ [] [] "batch" _ (.head _) (by decide))
  have unread : ∀ relay session, Relaid [("relay", relay), ("session", session)]
      [("unread", .integer 1), ("relay", relay), ("session", session)] := fun relay session =>
    .top (@Form.Relaid.unknown _ _ [] [_, _] "unread" (.integer 1) (by decide) (by simp))
  have relaid := Relation.ReflTransGen.head order (.head mode (.head layer (.head (relay _)
    (.head (batch _) (.single (unread _ _))))))
  obtain ⟨-, same⟩ := layout_immaterial hshort relaid
  exact ⟨same longText hlong, by decide +kernel⟩

end Settings

end PacketDiversion
