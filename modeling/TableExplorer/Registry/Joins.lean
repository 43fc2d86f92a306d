import TableExplorer.Dict

/-!
# Known joins

The joins that a user may add to a query. A join leads from a column of a table to a column of a
foreign table; only the ones listed here exist, whatever the database declares.
-/

namespace TableExplorer.Registry

/-- A join: the column leads to `foreignColumn` of `foreignTable`. -/
structure KnownJoin where
  column : String
  foreignTable : String
  foreignColumn : String
  deriving DecidableEq, Repr

abbrev KnownJoins := Dict (List KnownJoin)

/-- The joins that are offered. -/
def knownJoins : KnownJoins :=
  [
    ("leads",
      [
        ⟨"etapa", "etapa", "id"⟩,
        ⟨"funil", "funil", "id"⟩,
        ⟨"vendedorResponsavel", "vendedores", "id"⟩,
        ⟨"segmento", "segmentos", "id"⟩,
        ⟨"subsegmento", "subsegmento", "id"⟩,
        ⟨"negocio", "negocio", "id"⟩,
        ⟨"celebridadeDesejada", "celebridadesReferencia", "id"⟩,
        ⟨"funilVendedor", "funil", "id"⟩,
        ⟨"etapaVendedorFunil", "etapa", "id"⟩,
        ⟨"agenciavendas", "agenciavendas", "id"⟩,
        ⟨"segmento_mgs_id", "segmento_mgs", "id"⟩,
        ⟨"celularBot", "celularesBot", "id"⟩,
        ⟨"wpp_lead", "wppLeads", "id"⟩
      ]),
    ("compras",
      [
        ⟨"cliente_id", "clientes", "id"⟩,
        ⟨"celebridade", "celebridadesReferencia", "id"⟩,
        ⟨"vendedoresponsavel", "vendedores", "id"⟩,
        ⟨"leadid", "leads", "lead_id"⟩,
        ⟨"segmento", "segmentos", "id"⟩,
        ⟨"subsegmento", "subsegmento", "id"⟩,
        ⟨"imagemproposta_id", "imagemProposta", "idproposta"⟩,
        ⟨"produto_mgs_id", "produtos_mgs", "id"⟩,
        ⟨"classificacao_id", "cliente_classificacao", "id"⟩
      ]),
    ("clientes",
      [
        ⟨"lead_id", "leads", "lead_id"⟩,
        ⟨"vendedorresponsavel", "vendedores", "id"⟩,
        ⟨"segmento", "segmentos", "id"⟩,
        ⟨"subsegmento", "subsegmento", "id"⟩,
        ⟨"classificacao_id", "cliente_classificacao", "id"⟩
      ]),
    ("imagemProposta",
      [
        ⟨"id_lead", "leads", "lead_id"⟩,
        ⟨"id_vendedor", "vendedores", "id"⟩,
        ⟨"celebridade1", "celebridadesReferencia", "id"⟩,
        ⟨"celebridade2", "celebridadesReferencia", "id"⟩,
        ⟨"celebridade3", "celebridadesReferencia", "id"⟩,
        ⟨"segmento", "segmentos", "id"⟩,
        ⟨"subsegmento", "subsegmento", "id"⟩,
        ⟨"negocio", "negocio", "id"⟩,
        ⟨"pack_promocional_id", "pack_promocional", "id"⟩
      ]),
    ("agendamento",
      [
        ⟨"leadId", "leads", "lead_id"⟩,
        ⟨"vendedor", "vendedores", "id"⟩,
        ⟨"tipo_agendamento", "tipo_agendamento", "id"⟩
      ]),
    ("bloqueiosCelebridades",
      [
        ⟨"celebridade", "celebridadesReferencia", "id"⟩,
        ⟨"subsegmento_id", "subsegmento", "id"⟩,
        ⟨"negocio_id", "negocio", "id"⟩,
        ⟨"tipo_bloqueio_id", "tipo_bloqueio", "id"⟩
      ]),
    ("loogsLeads",
      [
        ⟨"lead", "leads", "lead_id"⟩,
        ⟨"vendedor_id", "vendedores", "id"⟩,
        ⟨"etapa_anterior", "etapa", "id"⟩,
        ⟨"etapa_posterior", "etapa", "id"⟩
      ]),
    ("chatMessages", [⟨"lead_id", "leads", "lead_id"⟩]),
    ("lead_telefones", [⟨"lead_id", "leads", "lead_id"⟩]),
    ("checkout_sessions",
      [
        ⟨"compra_id", "compras", "id"⟩,
        ⟨"cliente_id", "clientes", "id"⟩
      ]),
    ("notas_fiscais",
      [
        ⟨"compra_id", "compras", "id"⟩,
        ⟨"cliente_id", "clientes", "id"⟩
      ]),
    ("producao_tasks",
      [
        ⟨"list_id", "producao_lists", "id"⟩,
        ⟨"status_id", "producao_statuses", "id"⟩,
        ⟨"client_id", "producao_clients", "id"⟩,
        ⟨"creator_id", "producao_members", "id"⟩
      ]),
    ("crm_metas_vendedor_mes",
      [
        ⟨"vendedor_id", "vendedores", "id"⟩,
        ⟨"grupo_id", "crm_metas_grupos", "id"⟩
      ]),
    ("etapa", [⟨"funil", "funil", "id"⟩]),
    ("wppLeads", [⟨"idLead", "leads", "lead_id"⟩]),
    ("anotacoes", [⟨"lead", "leads", "lead_id"⟩]),
    ("follow_up_history", [⟨"lead_id", "leads", "lead_id"⟩]),
    ("linha_do_tempo", [⟨"cliente_id", "clientes", "id"⟩])
  ]

def KnownJoins.ofTable (joins : KnownJoins) (table : String) : List KnownJoin :=
  (Dict.get? joins table).getD []

/-- The join from a column of a table to a foreign table; of several the first. -/
def KnownJoins.find? (joins : KnownJoins) (table column foreignTable : String) :
    Option KnownJoin :=
  (joins.ofTable table).find? fun j => j.column = column && j.foreignTable = foreignTable

end TableExplorer.Registry
