import TableExplorer.Dict

/-!
# Lookup sources

Some columns hold the identifiers of rows of another table. A lookup source says where the label
of such an identifier is found: the table, the column of the identifiers and that of the labels.
-/

namespace TableExplorer.Registry

/-- Where the labels for the identifiers of a column are found. -/
structure LookupSource where
  table : String
  labelField : String
  idField : String := "id"
  deriving DecidableEq, Repr

/-- The key under which the labels of a source are cached. -/
def LookupSource.cacheKey (s : LookupSource) : String := s.table ++ "." ++ s.labelField

/-- The lookup sources of the columns of each table. -/
abbrev Lookups := Dict (Dict LookupSource)

def seller : LookupSource := { table := "vendedores", labelField := "nome" }

/-- The names of stages of a pipeline. -/
def stage : LookupSource := { table := "etapa", labelField := "nome" }

/-- The names of pipelines. -/
def funnel : LookupSource := { table := "funil", labelField := "nome" }

def segment : LookupSource := { table := "segmentos", labelField := "nome" }

def subsegment : LookupSource := { table := "subsegmento", labelField := "nome" }

def celebrity : LookupSource := { table := "celebridadesReferencia", labelField := "nome" }

/-- The columns whose identifiers are shown as labels. -/
def lookups : Lookups :=
  [
    ("leads",
      [
        ("vendedorResponsavel", seller),
        ("etapa", stage),
        ("funil", funnel),
        ("etapaVendedorFunil", stage),
        ("funilVendedor", funnel),
        ("segmento", segment),
        ("subsegmento", subsegment),
        ("celebridadeDesejada", celebrity)
      ]),
    ("compras",
      [
        ("vendedoresponsavel", seller),
        ("celebridade", celebrity),
        ("segmento", segment),
        ("subsegmento", subsegment),
        ("cliente_id", { table := "clientes", labelField := "nome" })
      ]),
    ("clientes",
      [
        ("vendedorresponsavel", seller),
        ("segmento", segment),
        ("subsegmento", subsegment)
      ]),
    ("agendamento",
      [
        ("vendedor", seller),
        ("tipo_agendamento", { table := "tipo_agendamento", labelField := "nome" })
      ]),
    ("bloqueiosCelebridades",
      [
        ("celebridade", celebrity),
        ("tipo_bloqueio_id", { table := "tipo_bloqueio", labelField := "nome" })
      ]),
    ("loogsLeads",
      [
        ("vendedor_id", seller),
        ("etapa_anterior", stage),
        ("etapa_posterior", stage)
      ]),
    ("etapa",
      [
        ("funil", funnel)
      ]),
    ("crm_metas_vendedor_mes",
      [
        ("vendedor_id", seller)
      ]),
    ("producao_tasks",
      [
        ("status_id", { table := "producao_statuses", labelField := "name" }),
        ("list_id", { table := "producao_lists", labelField := "name" })
      ])
  ]

def Lookups.ofTable (ls : Lookups) (table : String) : Dict LookupSource :=
  (Dict.get? ls table).getD []

def Lookups.ofColumn? (ls : Lookups) (table column : String) : Option LookupSource :=
  Dict.get? (ls.ofTable table) column

end TableExplorer.Registry
