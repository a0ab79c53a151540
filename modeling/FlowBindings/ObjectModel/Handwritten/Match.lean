import FlowBindings.ObjectModel.Source.Draft

/-!
# Matches and statistics written by hand

Matches and statistics are looked into by field. From the third version on they are
lists of entries, and it depends on the entries the protocol has which fields they
know.
-/

namespace FlowBindings.ObjectModel.Source.Handwritten

open Text

def entryLabels (entries : Outcome (Table String Library.EntryKind)) : Outcome String := do
  let constants := ((← entries).values.map (·.constant)).eraseDups.mergeSort fun a b => a ≤ b
  pure (each constants fun constant => "            case " ++ constant ++ ":\n")

def supportMethods : String :=
  each ["supports", "supportsMasked"] fun name => form [("name", name)] r"
	χpublic boolean «name»(MatchField<?> field) {
		ρsupportsField(field);
	}

"

variable (d : Draft)

def entryMatch : Outcome String := do
  pure (d.put r#"
	χφ F get(MatchField<F> field)
			throws υ {
		if (!supports(field))
			throw new υ("«class» does not support matching on field " + field.getName());

		OFOxm<F> oxm = this.oxmList.get(field);

		if (oxm == null || !field.arePrerequisitesOK(this))
			ρnull;

		ρoxm.getValue();
	}

	χφ Masked<F> getMasked(MatchField<F> field)
			throws υ {
		if (!supportsMasked(field))
			throw new υ("«class» does not support masked matching on field " + field.getName());

		OFOxm<F> oxm = this.oxmList.get(field);

		if (oxm == null || !field.arePrerequisitesOK(this))
			ρnull;

		if (oxm.getMask() == null)
			ρnull;

		// TODO: Make OfOxm extend Masked and just ρthe OXM?
		ρMasked.of(oxm.getValue(), oxm.getMask());
	}

	private static boolean supportsField(MatchField<?> field) {
		switch (field.id) {
"#
    ++ (← entryLabels d.library.matchEntries)
    ++ d.put r#"
				ρtrue;
			default:
				ρfalse;
		}
	}

"#
    ++ supportMethods ++ each [("isExact", "\n", "false", "oxm != null && !oxm.isMasked()"),
        ("isFullyWildcarded", "", "true", "oxm == null"),
        ("isPartiallyMasked", "", "false", "oxm != null && oxm.isMasked()")] (fun (name, gap, absent, result) =>
      form (d.holes ++ [("name", name), ("gap", gap), ("absent", absent), ("result", result)]) r#"
	χpublic boolean «name»(MatchField<?> field) {
		if (!supports(field))
			throw new υ("«class» does not support matching on field " + field.getName());
«gap»		if(!field.arePrerequisitesOK(this))
			ρ«absent»;

		OFOxm<?> oxm = this.oxmList.get(field);

		ρ«result»;
	}

"#)
    ++ d.put r#"
	private class MatchFieldIterator extends AbstractIterator<MatchField<?>> {
		private Iterator<OFOxm<?>> oxmIterator;

		MatchFieldIterator() {
			oxmIterator = oxmList.iterator();
		}

		χ	protected MatchField<?> computeNext() {
			while(oxmIterator.hasNext()) {
				OFOxm<?> oxm = oxmIterator.next();
				if(oxm.getMatchField().arePrerequisitesOK(«class».this))
				   ρoxm.getMatchField();
			}
			endOfData();
			ρnull;
		}
	}

	χpublic Iterable<MatchField<?>> getMatchFields() {
		ρnew Iterable<MatchField<?>>() {
			public Iterator<MatchField<?>> iterator() {
				ρnew MatchFieldIterator();
			}
		};
	}
"#)

def entryMatchBuilder : String := d.put r"

	private OFOxmList.Builder oxmListBuilder;

	private void initBuilder() {
		if (oxmListBuilder != null)
			return;
		oxmListBuilder = new OFOxmList.Builder();
	}

	private void updateOxmList() {
		this.oxmList = this.oxmListBuilder.build();
		this.oxmListSet = true;
	}

	private <F extends OFValueType<F>> OFOxm<F> getOxm(MatchField<F> field) {
		ρthis.oxmListSet ? this.oxmList.get(field) : null;
	}

	χφ F get(MatchField<F> field)
			throws υ {
		OFOxm<F> value = getOxm(field);
		if (value == null)
			ρnull;
		ρvalue.getValue();
	}

	χφ Masked<F> getMasked(MatchField<F> field)
			throws υ {
		OFOxm<F> value = getOxm(field);
		if (value == null || !value.isMasked())
			ρnull;
		// TODO: If changing OXMs to extend Masked, then use it here
		ρMasked.of(value.getValue(), value.getMask());
	}

"
  ++ supportMethods ++ each [("isExact", "value != null && !value.isMasked()"), ("isFullyWildcarded", "value == null"),
      ("isPartiallyMasked", "value != null && value.isMasked()")] (fun (name, result) =>
    form [("name", name), ("result", result)] r"
	χpublic boolean «name»(MatchField<?> field) {
		OFOxm<?> value = getOxm(field);
		ρ(«result»);
	}

")
  ++ each [("setExact", "F value", "fromValue(value, field)"),
      ("setMasked", "F value, F mask", "fromValueAndMask(value, mask, field)"),
      ("setMasked", "Masked<F> valueWithMask", "fromMasked(valueWithMask, field)")] (fun (name, given, made) =>
    form (d.holes ++ [("name", name), ("given", given), ("made", made)]) r"
	χφ Match.Builder «name»(
			MatchField<F> field, «given») {
		initBuilder();
		OFOxm<F> oxm = OFFactories.getFactory(OFVersion.«versionConstant»).oxms().«made»;
		this.oxmListBuilder.set(oxm);
		updateOxmList();
		ρthis;
	}

")
  ++ block r"
	χφ Match.Builder wildcard(MatchField<F> field) {
		initBuilder();
		this.oxmListBuilder.unset(field);
		updateOxmList();
		ρthis;
	}
"

def unwrittenMethod (head result : String) : String :=
  form [("head", head), ("result", result)] r"

	χpublic «head» {
		// FIXME yotam - please replace with real implementation
		ρ«result»;
	}
"

def fixedLook : String :=
  each ["F get", "Masked<F> getMasked"] (fun name => unwrittenMethod
    ("<F extends OFValueType<F>> " ++ name
      ++ "(MatchField<F> field)\n            throws UnsupportedOperationException") "null")
  ++ each ["supports", "supportsMasked", "isExact", "isFullyWildcarded", "isPartiallyMasked"] fun name =>
    unwrittenMethod ("boolean " ++ name ++ "(MatchField<?> field)") "false"

def fixedMatch : String := fixedLook ++ block r"

	χpublic Iterable<MatchField<?>> getMatchFields() {
		throw new υ();
	}
"

def fixedMatchBuilder : String :=
  let onNextLine params := "(\n            " ++ params ++ ")"
  fixedLook ++ each
    ["setExact" ++ onNextLine "MatchField<F> field, F value",
     "setMasked" ++ onNextLine "MatchField<F> field, F value, F mask",
     "setMasked" ++ onNextLine "MatchField<F> field, Masked<F> valueWithMask",
     "wildcard(MatchField<F> field)"] fun head =>
    unwrittenMethod ("<F extends OFValueType<F>> Match.Builder " ++ head) "null"

def matchText : String := d.put r#"
	χpublic String toString() {
		StringBuilder b = new StringBuilder("«class»(");
		boolean first = true;
		for(MatchField<?> field : getMatchFields()) {
			if(first)
				first = false;
			else
				b.append(", ");
			String name = field.getName();
			b.append(name).append('=').append(this.get(field));
			if(isPartiallyMasked(field)) {
				b.append('/').append(this.getMasked(field).getMask());
			}
		}
		b.append(")");
		ρb.toString();
	}
"#

def statistics : Outcome String := do
  pure (d.put r#"

	χφ F get(StatField<F> field)
			throws υ {
		if (!supports(field))
			throw new υ("«class» does not support statistics on field " + field.getName());

		OFOxs<F> oxs = this.oxsFields.get(field);

		if (oxs == null)
			ρnull;

		ρoxs.getValue();
	}

	χpublic Iterable<StatField<?>> getStatFields() {
		ρnew Iterable<StatField<?>>() {
			public Iterator<StatField<?>> iterator() {
				ρnew StatFieldIterator();
			}
		};
	}

	χpublic boolean supports(StatField<?> field) {
		ρsupportsField(field);
	}

	private static boolean supportsField(StatField<?> field) {
		switch (field.id) {
"#
    ++ (← entryLabels d.library.statEntries)
    ++ d.put r"
				ρtrue;
			default:
				ρfalse;
		}
	}

	private class StatFieldIterator extends AbstractIterator<StatField<?>> {
		private Iterator<OFOxs<?>> oxsIterator;

		StatFieldIterator() {
			oxsIterator = oxsFields.iterator();
		}

		χ	protected StatField<?> computeNext() {
			while(oxsIterator.hasNext()) {
				OFOxs<?> oxs = oxsIterator.next();
				ρoxs.getStatField();
			}
			endOfData();
			ρnull;
		}
	}
")

def statisticsBuilder : String := d.put r#"
	private OFOxsList.Builder oxsFieldsBuilder;

	private void initBuilder() {
		if (oxsFieldsBuilder != null)
			return;
		oxsFieldsBuilder = new OFOxsList.Builder();
	}

	private void updateOxsList() {
		this.oxsFields = this.oxsFieldsBuilder.build();
		this.oxsFieldsSet = true;
	}



	χφ F get(StatField<F> field) throws υ{
		if (!supports(field))
			throw new υ("«class» does not support statistics on field " + field.getName());

		OFOxs<F> oxs = getOxs(field);

		if (oxs == null)
			ρnull;

		ρoxs.getValue();
	}

	χφ Stat.Builder set(StatField<F> field, F value) {
		initBuilder();
		OFOxs<F> oxs = OFFactories.getFactory(OFVersion.«versionConstant»).oxss().fromValue(value, field);
		this.oxsFieldsBuilder.set(oxs);
		updateOxsList();
		ρthis;
	}


	χpublic boolean supports(StatField<?> field){
		ρsupportsField(field);
	}

	private <F extends OFValueType<F>> OFOxs<F> getOxs(StatField<F> field) {
		ρthis.oxsFieldsSet ? this.oxsFields.get(field) : null;
	}
"#

end FlowBindings.ObjectModel.Source.Handwritten
