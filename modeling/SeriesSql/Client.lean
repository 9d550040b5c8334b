import SeriesSql.Builder.Insert
import SeriesSql.Builder.Select
import SeriesSql.Builder.Update
import SeriesSql.Schema.Operation

/-!
# Statements sent as they are

What a client does with an engine besides running builders: schema operations, and SQL text of its
own.
-/

namespace SeriesSql.Client

def runSchemaOp (op : SchemaOp) : Session Response :=
  Session.sendRendered op.toSql

def createTable (table : Table) (ifNotExists : Bool) : Session Response :=
  runSchemaOp (.create table ifNotExists)

def alterTable (table : Table) (alteration : Alteration) : Session Response :=
  runSchemaOp (.alter table alteration)

def dropTable (table : Table) (ifExists : Bool) : Session Response :=
  runSchemaOp (.drop table ifExists)

def truncateTable (table : Table) : Session Response :=
  runSchemaOp (.truncate table)

/-- Sends SQL text as it is. -/
def executeRaw (sql : String) : Session Response :=
  Session.send sql

end SeriesSql.Client
