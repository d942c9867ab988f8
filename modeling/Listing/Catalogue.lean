import Listing.Record
import Listing.Filter

/-!
# A catalogue of sample types

Types of filters and records for a small shop: products, accounts, cities, orders
with two levels of ancestors, and a kitchen sink with a field of every type.
-/

namespace Listing.Catalogue

/-! ## Field types -/

/-- The states of an account or an order. -/
def status : Atom := .choice ["ACTIVE", "FROZEN", "CLOSED"]

/-- Some colours. -/
def colour : Atom := .choice ["RED", "Green", "dark blue"]

/-- Texts. -/
def text : FieldType := .atom .text

/-- Truth values. -/
def flag : FieldType := .atom .flag

/-- Identifiers. -/
def uuid : FieldType := .atom .uuid

/-- Moments of world time. -/
def instant : FieldType := .atom .instant

/-- Small integers. -/
def short : FieldType := .atom (.integer .signed16)

/-- Integers. -/
def int : FieldType := .atom (.integer .signed32)

/-- Large integers. -/
def long : FieldType := .atom (.integer .signed64)

/-- Small integers without a sign. -/
def unsignedShort : FieldType := .atom (.integer .unsigned16)

/-- Integers without a sign. -/
def unsignedInt : FieldType := .atom (.integer .unsigned32)

/-- Large integers without a sign. -/
def unsignedLong : FieldType := .atom (.integer .unsigned64)

/-- A field without markers. -/
def field (name : String) (type : FieldType) : Field := ⟨name, type, []⟩

/-- A field with one marker. -/
def marked (marker : Marker) (name : String) (type : FieldType) : Field := ⟨name, type, [marker]⟩

/-! ## Products, accounts and cities -/

/-- What products and the filters of products have in common. -/
def productFields : List Field :=
  [field "name" text, field "price" .double, field "stock" int, field "tags" (.list text),
   field "released" instant]

/-- Filters of products. -/
def productFilter : Schema := .single "ProductFilter" productFields

/-- Products. -/
def product : RecordType :=
  ⟨.single "Product" (marked .primaryId "id" uuid :: productFields), "products", 88⟩

/-- Products as they once were, in the same table. -/
def legacy : RecordType :=
  ⟨.single "Legacy" [field "name" text, field "sku" text], "products", 48⟩

/-- What accounts and the filters of accounts have in common. -/
def accountFields : List Field :=
  [field "name" text, field "balance" .double, field "status" (.atom status),
   field "opened_at" instant]

/-- Filters of accounts. -/
def accountFilter : Schema := .single "AccountFilter" accountFields

/-- Accounts. -/
def account : RecordType :=
  ⟨.single "Account" (marked .primaryId "id" uuid :: accountFields), "accounts", 64⟩

/-- The fields of cities. -/
def cityFields : List Field :=
  [field "name" text, field "population" long, field "region" (.optional text),
   field "area" (.optional .double), field "founded" (.optional instant),
   field "capital" (.optional flag), field "colour" (.optional (.atom colour))]

/-- Filters of cities. -/
def cityFilter : Schema := .single "CityFilter" cityFields

/-- Cities. -/
def city : RecordType := ⟨.single "City" cityFields, "cities", 88⟩

/-! ## Orders -/

/-- The furthest ancestor of the filters of orders. -/
def rootFilter : Schema :=
  .single "RootFilter" [field "created_at" instant, marked .transient "cache_key" text,
    field "owner" text]

/-- The nearest ancestor of the filters of orders. -/
def auditFilter : Schema :=
  rootFilter.extending "AuditFilter" [field "revision" unsignedLong,
    field "modified" (.atom .localTime), field "owner_id" uuid,
    marked .filterableId "editorId" long]

/-- Filters of orders. -/
def orderFilter : Schema :=
  auditFilter.extending "OrderFilter" [field "id" uuid, marked .primaryId "reference" text,
    field "customerId" uuid, marked .filterableId "branch_id" uuid,
    marked .filterableId "region" text, ⟨"code", text, [.primaryId, .filterableId]⟩,
    marked .filterableId "group_id" (.list int), field "owner" text, field "amount" .double,
    field "quantity" int, field "status" (.atom status), field "serial_version_uid" long,
    field "serialVersionUID" long, field "tags" (.list text), field "paid" flag]

/-- The ancestor of orders. -/
def rootRecord : RecordType :=
  ⟨.single "RootRecord" [field "created_at" instant, field "owner" (.optional text),
    field "owner_id" (.optional uuid)], "roots", 56⟩

/-- Orders. -/
def order : RecordType :=
  ⟨rootRecord.schema.extending "Order" [field "id" long, marked .primaryId "reference" text,
    field "customerId" (.optional uuid), field "branch_id" (.optional uuid),
    marked .filterableId "region" (.optional text), field "code" text,
    field "group_id" (.optional int), field "amount" .double, field "quantity" int,
    field "status" (.atom status), field "tags" (.list text), field "paid" (.optional flag),
    marked .transient "discount" (.optional .double)], "orders", 232⟩

/-! ## The kitchen sink -/

/-- Fields of every type. -/
def kitchenFields : List Field :=
  [field "small" short, field "int" int, field "big" long, field "usmall" unsignedShort,
   field "uint" unsignedInt, field "ubig" unsignedLong, field "single" .single,
   field "double" .double, field "text" text, field "flag" flag, field "uuid" uuid,
   field "at" instant, field "local" (.atom .localTime), field "day" (.atom .date),
   field "json" .document, field "maybe" (.optional int), field "maybe_text" (.optional text),
   field "longs" (.list long), field "doubles" (.list .double), field "words" (.set .text),
   field "ints" (.set (.integer .signed32)), field "boxed" (.slice int),
   field "pair" (.tuple int 2),
   field "colour" (.atom colour), field "colours" (.list (.atom colour)),
   field "uuids" (.list uuid), field "days" (.list (.atom .date)),
   field "maybe_words" (.optional (.list text))]

/-- Filters with a field of every type. -/
def kitchenFilter : Schema := .single "KitchenFilter" kitchenFields

/-- Records with a field of every type. -/
def kitchen : RecordType := ⟨.single "Kitchen" kitchenFields, "kitchen", 392⟩

/-! ## By name -/

/-- All types of filters. -/
def filterTypes : List Schema :=
  [productFilter, accountFilter, cityFilter, rootFilter, auditFilter, orderFilter, kitchenFilter]

/-- All types of records. -/
def recordTypes : List RecordType :=
  [product, legacy, account, city, rootRecord, order, kitchen]

/-- The fields of the type with a name. -/
def schema? (name : String) : Option Schema :=
  (filterTypes ++ recordTypes.map (·.schema)).find? (·.own.typeName = name)

/-- Which records are listed with which filters. -/
structure Pairing where
  name : String
  entity : RecordType
  filter : Schema

/-- All pairings. -/
def pairings : List Pairing :=
  [⟨"product", product, productFilter⟩, ⟨"legacy", legacy, productFilter⟩,
   ⟨"account", account, accountFilter⟩, ⟨"city", city, cityFilter⟩, ⟨"order", order, orderFilter⟩,
   ⟨"kitchen", kitchen, kitchenFilter⟩]

end Listing.Catalogue
