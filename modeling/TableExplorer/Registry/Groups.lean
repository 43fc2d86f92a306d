import TableExplorer.Dict

/-!
# Table groups

The groups under which the tables are listed. A table that is in no group falls into the default
group, which is listed last and only for tables that are really there.
-/

namespace TableExplorer.Registry

/-- The group of the tables that are in no other. -/
def defaultGroup : String := "Other"

/-- The tables of each group, in the order in which they are listed. -/
def tableGroups : Dict (List String) :=
  [
    ("CRM - Leads",
      [
        "leads", "lead_telefones", "loogsLeads", "anotacoes", "taskLead", "wppLeads",
        "leads_stage_backup"
      ]),
    ("CRM - Pipeline", ["funil", "etapa"]),
    ("CRM - Sellers",
      [
        "vendedores", "crm_metas_grupos", "crm_metas_geral_mes", "crm_metas_vendedor_mes",
        "crm_metas_vendedores_override", "checkpoint_gestor"
      ]),
    ("Sales", ["compras", "compras_logs", "imagemProposta", "agendamento", "tipo_agendamento"]),
    ("Customers", ["clientes", "cliente_classificacao", "linha_do_tempo", "logs_cliente"]),
    ("Celebrities & Blocks",
      [
        "celebridadesReferencia", "celebridades", "bloqueiosCelebridades", "tipo_bloqueio",
        "previewLogoCeleb", "noticias"
      ]),
    ("Segments & Geo",
      [
        "segmentos", "subsegmento", "negocio", "municipios", "munucipios2", "geolocation",
        "regioesDdd", "agencias", "agenciavendas"
      ]),
    ("Checkout",
      [
        "checkout_sessions", "checkout_config", "checkout_webhooks_log", "checkout_audit_log",
        "checkout_split_groups", "tentativas_pagamento"
      ]),
    ("Invoices",
      [
        "notas_fiscais", "notas_fiscais_logs", "nfeio_config", "nfe_emission_requests",
        "nfeio_id_map", "nfeio_webhook_inbox", "omie_sync"
      ]),
    ("WhatsApp", ["chatMessages", "n8n_chat_histories", "playbook_messages"]),
    ("Production",
      [
        "producao_workspaces", "producao_spaces", "producao_lists", "producao_statuses",
        "producao_members", "producao_clients", "producao_tasks", "producao_task_assignees",
        "producao_tags", "producao_task_tags", "producao_checklists", "producao_checklist_items",
        "producao_task_watchers", "producao_attachments", "producao_custom_field_definitions",
        "producao_custom_field_values", "producao_comments", "producao_task_time_logs"
      ]),
    ("Customer Service",
      [
        "crm_atd_clientes", "crm_atd_mensagens", "crm_atd_ai_config", "crm_atd_ai_jobs",
        "crm_atd_ai_runs", "crm_atd_logs", "crm_atd_clientes_ignore", "crm_atd_admin_passwords",
        "crm_atd_status_audit"
      ]),
    ("Marketing",
      [
        "meta_campaigns", "meta_insights_cache", "meta_insights_history", "campanhaTrafego",
        "dashboard_conversion_hourly", "dashboard_trend_events"
      ]),
    ("Billing",
      [
        "faturamento2025", "faturamento2026(porforasistema)", "rampa_ia_2026",
        "dashboard_metricas", "dashboard_extractions", "contagem_leads"
      ]),
    ("SGC (Management System)",
      [
        "sgc_celebridades", "sgc_segmentos", "sgc_subsegmentos", "sgc_negocios", "sgc_estados",
        "sgc_cidades"
      ]),
    ("Settings",
      [
        "follow_up_config", "follow_up_history", "lead_rotation_config", "lead_rotation_history",
        "lead_rotation_notification_config", "lead_notification_history",
        "meeting_reminder_config", "pack_promocional", "produtos", "produtos_mgs", "segmento_mgs",
        "user_column_permissions", "feriados_nacionais"
      ]),
    ("System",
      [
        "rate_limits", "security_logs", "activity_logs", "creatomate_webhooks",
        "clicksign_webhooks", "recorrencias", "recorrencias_cobrancas"
      ])
  ]

def groupOf (table : String) : String :=
  match tableGroups.find? fun g => g.2.contains table with
  | some g => g.1
  | none => defaultGroup

/-- Names in code point order. -/
def sortNames (names : List String) : List String :=
  names.mergeSort fun a b => !decide (b < a)

/-- The groups with their tables. Of the tables that are available, those in no group are listed
under the default group, in code point order. -/
def groupedTables (available : Option (List String)) : Dict (List String) :=
  let others := sortNames ((available.getD []).filter fun t => groupOf t = defaultGroup)
  if others.isEmpty then tableGroups else Dict.insert tableGroups defaultGroup others

end TableExplorer.Registry
