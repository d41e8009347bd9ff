/-
# A small booking schema

Businesses with their locations, booking orders and payments: a schema to try commands on.
-/

import Tenancy.Catalog.Basic

namespace Tenancy.Catalog

/-- A column that may be null. -/
def nullable (name sqlType : String) : Column := ⟨name, sqlType, false, false⟩

/-- A column that refuses nulls. -/
def present (name sqlType : String) : Column := ⟨name, sqlType, true, false⟩

/-- A primary key column. -/
def key (name sqlType : String) : Column := ⟨name, sqlType, true, true⟩

/-- The tables of the booking schema. -/
def demoTables : List Table :=
  [{ name := "bizes"
     columns := [key "id" "VARCHAR", present "name" "VARCHAR", present "slug" "VARCHAR",
       present "created_at" "TIMESTAMP"] },
   { name := "booking_orders"
     columns := [key "id" "VARCHAR", present "biz_id" "VARCHAR", nullable "location_id" "VARCHAR",
       present "customer_name" "VARCHAR", present "status" "VARCHAR", present "party_size" "INTEGER",
       nullable "starts_at" "TIMESTAMP", present "total_minor" "BIGINT", nullable "metadata" "JSON",
       present "created_at" "TIMESTAMP"] },
   { name := "locations"
     columns := [key "id" "VARCHAR", present "biz_id" "VARCHAR", present "name" "VARCHAR",
       present "timezone" "VARCHAR", present "created_at" "TIMESTAMP"] },
   { name := "payments"
     columns := [key "id" "VARCHAR", present "biz_id" "VARCHAR", present "booking_order_id" "VARCHAR",
       present "amount_minor" "BIGINT", present "currency" "VARCHAR(3)",
       present "created_at" "TIMESTAMP"] }]

/-- The catalog of the booking schema. -/
def demo (tenantColumn : String) : Catalog :=
  build demoTables tenantColumn

end Tenancy.Catalog
