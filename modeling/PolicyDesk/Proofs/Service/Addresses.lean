import PolicyDesk.Proofs.Address.Slashes
import PolicyDesk.Service.Config

/-!
# The address of the collection and of its records

* `ServiceConfig.collection_eq_ok_iff`: the collection is what the base address reads as without the blanks around it
  and the slashes behind it.
* `ServiceConfig.collection_fed_back_iff`: when its address, given as base address, leads to the same collection.
* `ServiceConfig.slashes_are_dropped_from_the_text`: slashes are dropped before the address is read, and what this
  means for its path, its query, its fragment, and for its being read once more.
* `ServiceConfig.items_are_told_apart`: the address of a record differs from that of the collection in its path only,
  and each record has its own.
-/

namespace PolicyDesk

open Text (natural)

variable [InternationalNames] {c : ServiceConfig} {u : Url}

/-! ## The collection -/

namespace ServiceConfig

theorem collection_eq_ok_iff : c.collection = .ok u ↔ Address.read c.trimmedBase = .ok (.web u) := by
  unfold collection
  split <;> simp_all

omit [InternationalNames] in
theorem trimmedBase_eq (c : ServiceConfig) :
    c.trimmedBase = Address.dropSlashes (Text.strip c.base.toList) := rfl

theorem collection_normal (ok : c.collection = .ok u) : u.Normal :=
  Address.read_normal (collection_eq_ok_iff.mp ok)

/-- Given as base address, an address in normal form loses nothing but the slashes behind it. -/
theorem trimmedBase_toText (h : u.Normal) : (ofAddress u.toText).trimmedBase = Address.dropSlashes u.text := by
  have kept := Text.strip_eq_self fun c hc => isBlank_of_isVisible (h.text_isVisible c hc)
  rw [trimmedBase_eq, ofAddress, Url.toText, String.toList_ofList, kept]

/-- The address of a collection leads to the same collection unless a slash is lost with which it ends. -/
theorem collection_fed_back_iff (h : u.Normal) :
    (ofAddress u.toText).collection = .ok u ↔
      (u.text.getLast? = some '/' → u.path.text = ['/'] ∧ u.query = none ∧ u.fragment = none) := by
  rw [collection_eq_ok_iff, trimmedBase_toText h, Address.read_dropSlashes_iff h]

/-- **Slashes are dropped from the text of the base address**, not from the path it names. The collection is always an
    address that is read as it is written. But its path ends in a slash whenever the last piece of the path as it is
    spelled names a folder; query and fragment are those of the base address only if no slash stands behind it or
    there is neither of them; and given as base address it leads to itself only if it does not end in a slash, other
    than that of the bare root. -/
theorem slashes_are_dropped_from_the_text (ok : c.collection = .ok u) :
    Address.read u.text = .ok (.web u) ∧
    (u.path.text.getLast? = some '/' ↔
      WebPath.NamesFolder (WebPath.lastPiece (Address.spelledPath c.trimmedBase))) ∧
    Address.read c.trimmedBase = .ok (.web u) ∧
    (∀ v, Address.read (Text.strip c.base.toList) = .ok (.web v) →
      (u.query = v.query ∧ u.fragment = v.fragment ↔
        ((Text.strip c.base.toList).getLast? = some '/' → v.query = none ∧ v.fragment = none))) ∧
    ((ofAddress u.toText).collection = .ok u ↔
      (u.text.getLast? = some '/' → u.path.text = ['/'] ∧ u.query = none ∧ u.fragment = none)) := by
  have read := collection_eq_ok_iff.mp ok
  have normal := collection_normal ok
  refine ⟨Address.read_text normal, ?_, read, fun v whole => ?_, collection_fed_back_iff normal⟩
  · rw [WebPath.text_ends_in_slash_iff normal.path, (Address.read_parts read).1, WebPath.leaf_read_eq_nil_iff]
  · exact Address.dropSlashes_parts_iff read whole

/-- An address whose path is spelled with a dot behind its last slash. -/
def dotted : ServiceConfig := ofAddress "http://h.test/a/."

/-- The collection that this address names. -/
def dottedCollection : Url :=
  ⟨.http, [], [], .name ['h', '.', 't', 'e', 's', 't'], none, ⟨[['a']], []⟩, none, none⟩

omit [InternationalNames] in
/-- The dot stands for the folder it is in, whose slash is not dropped then. -/
theorem dotted_address_keeps_its_slash :
    letI := InternationalNames.unknown
    dotted.collection = .ok dottedCollection ∧ dottedCollection.path.text = ['/', 'a', '/'] ∧
      (ofAddress dottedCollection.toText).collection ≠ .ok dottedCollection := by
  let := InternationalNames.unknown
  have ok : dotted.collection = .ok dottedCollection := rfl
  refine ⟨ok, rfl, fun same => ?_⟩
  have root := (slashes_are_dropped_from_the_text ok).2.2.2.2.mp same rfl
  cases root.1

end ServiceConfig

/-! ## Records -/

namespace Url

/-- The address of one record: the path leads one step below that of the collection, and all else is the same. -/
structure IsRecordOf (item collection : Url) (id : UInt64) : Prop where
  scheme : item.scheme = collection.scheme
  user : item.user = collection.user
  password : item.password = collection.password
  host : item.host = collection.host
  port : item.port = collection.port
  query : item.query = collection.query
  fragment : item.fragment = collection.fragment
  /-- A slash at the end of the collection is not doubled; of two slashes and nothing else only one is left. -/
  path : item.path.text =
    if collection.path.text = ['/', '/'] then '/' :: natural id.toNat
    else WebPath.withoutSlash collection.path.text ++ '/' :: natural id.toNat
  /-- The address is read as it is written. -/
  reading : Address.read item.text = .ok (.web item)

theorem item_normal (h : u.Normal) (id : UInt64) : (u.item id).Normal :=
  { h with path := WebPath.below_normal h.path (WebPath.isPlain_of_digits (Text.natural_isDigit id.toNat)) }

theorem item_isRecordOf (h : u.Normal) (id : UInt64) : (u.item id).IsRecordOf u id where
  scheme := rfl
  user := rfl
  password := rfl
  host := rfl
  port := rfl
  query := rfl
  fragment := rfl
  path := WebPath.below_text h.path _
  reading := Address.read_text (item_normal h id)

omit [InternationalNames] in
theorem item_ne (u : Url) (id : UInt64) : u.item id ≠ u := fun same =>
  WebPath.below_ne (Text.natural_ne_nil id.toNat) u.path (congrArg Url.path same)

omit [InternationalNames] in
theorem item_injective {id id' : UInt64} (same : u.item id = u.item id') : id = id' := by
  have leaf := congrArg (fun v => v.path.leaf) same
  simp only [item, WebPath.below_leaf] at leaf
  exact UInt64.toNat_inj.mp (Text.natural_injective leaf)

end Url

namespace ServiceConfig

/-- **Each record has an address of its own**, one step below that of the collection. -/
theorem items_are_told_apart (ok : c.collection = .ok u) (id : UInt64) :
    (u.item id).IsRecordOf u id ∧ (u.item id).text ≠ u.text ∧
      ∀ id', id' ≠ id → (u.item id').text ≠ (u.item id).text := by
  have normal := collection_normal ok
  refine ⟨Url.item_isRecordOf normal id, fun same => ?_, fun id' other same => ?_⟩
  · exact Url.item_ne u id (Url.text_injective (Url.item_normal normal id) normal same)
  · exact other (Url.item_injective (Url.text_injective (Url.item_normal normal id') (Url.item_normal normal id) same))

/-- The collection of the address that is taken if none is set. -/
def defaultCollection : Url :=
  ⟨.http, [], [], .v4 0x7F000001, some 8081, ⟨["insurancepolicy".toList, "api".toList], "policies".toList⟩, none, none⟩

omit [InternationalNames] in
/-- Its first and its last record. -/
theorem default_items_are_told_apart :
    letI := InternationalNames.unknown
    (ofAddress defaultAddress).collection = .ok defaultCollection ∧
      (defaultCollection.item 1).IsRecordOf defaultCollection 1 ∧
      (defaultCollection.item 18446744073709551615).text ≠ (defaultCollection.item 1).text := by
  let := InternationalNames.unknown
  have ok : (ofAddress defaultAddress).collection = .ok defaultCollection := rfl
  obtain ⟨record, -, others⟩ := items_are_told_apart ok 1
  exact ⟨ok, record, others _ (by decide)⟩

/-- An address whose path is two slashes, which are not at its end. -/
def doubled : ServiceConfig := ofAddress "https://h.test//?q"

/-- The collection that this address names. -/
def doubledCollection : Url :=
  ⟨.https, [], [], .name ['h', '.', 't', 'e', 's', 't'], none, ⟨[[]], []⟩, some ['q'], none⟩

omit [InternationalNames] in
/-- Below two slashes the path of a record does not go on behind the first of them. -/
theorem doubled_slash_is_not_kept :
    letI := InternationalNames.unknown
    doubled.collection = .ok doubledCollection ∧ doubledCollection.path.text = ['/', '/'] ∧
      (doubledCollection.item 42).path.text = '/' :: natural 42 ∧
      (doubledCollection.item 42).path.text ≠
        WebPath.withoutSlash doubledCollection.path.text ++ '/' :: natural 42 := by
  let := InternationalNames.unknown
  have ok : doubled.collection = .ok doubledCollection := rfl
  have path : (doubledCollection.item 42).path.text = '/' :: natural 42 :=
    WebPath.below_text (collection_normal ok).path (natural 42)
  refine ⟨ok, rfl, path, ?_⟩
  rw [path]
  simp [WebPath.withoutSlash, doubledCollection, WebPath.text]

end ServiceConfig

end PolicyDesk
