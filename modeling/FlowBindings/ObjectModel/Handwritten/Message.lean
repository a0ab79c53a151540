import FlowBindings.ObjectModel.Source.Draft

/-!
# Parts of messages written by hand

Some classes need code that does not follow from their fields. Messages that change
flows give the actions of their instructions as if they were their own; a message in
a bundle takes the transaction number of the message it holds; ports tell whether
they are up; buckets are put into groups and taken out of them.
-/

namespace FlowBindings.ObjectModel.Source.Handwritten

open Text

def flowMessages : List String := ["OFFlowAdd", "OFFlowModify", "OFFlowModifyStrict"]

/-- Whether a class gives the actions of its instructions: there are instructions
from the second version on. -/
def givesInstructionActions (c : Implementation) : Bool :=
  flowMessages.contains c.interface.name && c.version ≠ .v10

def actionsAfter (lines : String) : String := form [("lines", lines)] r"

	χpublic List<OFAction> getActions()throws υ {
«lines»		for (OFInstruction inst : this.instructions) {
			if (inst instanceof OFInstructionApplyActions) {
				OFInstructionApplyActions iap = (OFInstructionApplyActions)inst;
				ρiap.getActions();
			}
		}
		ρCollections.emptyList();
	}
"

def getActions : String := actionsAfter ""

def builderGetActions : String := actionsAfter (block r"
		if (!this.instructionsSet)
			ρCollections.emptyList();
")

def setActions (d : Draft) : String := d.put r"

	χpublic «interface».Builder setActions(List<OFAction> actions) throws υ {
		OFInstructionApplyActionsVer«digits».Builder builder = new OFInstructionApplyActionsVer«digits».Builder();
		builder.setActions(actions);
		this.instructions = Collections.singletonList((OFInstruction)builder.build());
		this.instructionsSet = true;
		ρthis;
	}
"

def setData : String := block r"
	/** Custom setter that ensures the BundleAdd message inherits the XID from their
	 *  contained message, as per OF Spec 1.4.0:
	 *  <p>
	 *  7.3.9.6 Adding messages to a bundle
	 *  </p><p>
	 *	 Message added in a bundle should have a unique xid to help matching errors to messages,
	 *	 and the xid of the bundle add message must be the same.
	 *  </p>
	 */
	χpublic OFBundleAddMsg.Builder setData(OFMessage data) {
		this.data = data;
		this.dataSet = true;
		ρsetXid(data.getXid());
	}
"

def portUpNote : String := block r"
	/**
	 * Returns true if the port is up, i.e., it's neither administratively
	 * down nor link down. It currently does NOT take STP state into
	 * consideration
	 * @ρwhether the port is up
	 */
"

/-- What stands above the method that tells the generation of a port, which by the note is
the constant of that name if there is none. -/
def generationNote (absent : String) : String := form [("absent", absent)] r"
	/**
	 * Returns the current generation ID of this port.
	 *
	 * The generationId is reported by the switch as a @{link OFPortDescProp} in
	 * {@link OFPortDescStatsReply} and {@link OFPortStatus} messages. If the
	 * current OFPortDesc does not contain a generation Id, returns U64.ZERO;
	 *
	 * For OpenFlow versions earlier than 1.4, always returns U64.ZERO;
	 *
	 * @ρthe generation ID or U64.«absent» if not reported
	 * @since 1.4
	 */
"

def port (d : Draft) : String :=
  "\n" ++ portUpNote ++ block r"
	public boolean isEnabled() {
		ρ(!state.contains(OFPortState.LINK_DOWN) && !config.contains(OFPortConfig.PORT_DOWN));
	}

"
    ++ generationNote "NULL" ++ block r"
	 @Nonnull
	 public U64 getBsnGenerationId() {
"
    ++ when (d.property? "properties").isSome (block r"
		 for(OFPortDescProp prop: getProperties()) {
			if(prop instanceof OFPortDescPropBsnGenerationId) {
				ρ((OFPortDescPropBsnGenerationId) prop).getGenerationId();
			}
		 }
")
    ++ block r"
		 ρU64.ZERO;
	 }
"

def insertBucket : String := block r#"

	public List<OFBucket> insertBucketBasedOnCommandBucketId(OFBucket bucket) {
		if(commandBucketId == null)
			throw new IllegalStateException("CommandBucketId is null");
		if(commandBucketId.equals(OFGroupBucket.BUCKET_FIRST))
			buckets.add(0, bucket);
		else if(commandBucketId.equals(OFGroupBucket.BUCKET_LAST))
			buckets.add(buckets.size(), bucket);
		ρbuckets;
	}


	public List<OFBucket> insertBucketBasedOnSpecificIndex(OFBucket bucket, int index) {
		if(index <= buckets.size())
			buckets.add(index,bucket);
		else
			throw new IllegalStateException("Index is not valid");
		ρbuckets;
	}"#

def removeBucket : String := block r#"

	public List<OFBucket> removeBucketBasedOnCommandBucketId() {
		if(commandBucketId == null)
			throw new IllegalStateException("CommandBucketId is null");
		if(commandBucketId.equals(OFGroupBucket.BUCKET_FIRST))
			buckets.remove(0);
		else if(commandBucketId.equals(OFGroupBucket.BUCKET_LAST))
			buckets.remove(buckets.size()-1);
		else if(commandBucketId.equals(OFGroupBucket.BUCKET_ALL))
			buckets.removeAll(buckets);
		ρbuckets;
	}


	public List<OFBucket> removeBucketBasedOnSpecificIndex(int index) {
		if(index <= buckets.size())
			buckets.remove(index);
		else
			throw new IllegalStateException("Index is not valid");
		ρbuckets;
	}
"#

/-! ## Entries -/

def unmaskedName (name : String) : String :=
  let cs := name.toList
  let mark := "MaskedVer".toList
  match (List.range (cs.length + 1)).reverse.find? fun k => mark.isPrefixOf (cs.drop k) with
  | some k => String.ofList (cs.take k ++ cs.drop (k + 6))
  | none => name

def canonical (d : Draft) (p : Property) : Outcome String := do
  let masked ← orFault (d.property? "masked") (.noProperty "value")
  let value ← d.target.value masked
  let body ←
    if value.shown = "true" then do
      let mask ← orFault (d.property? "mask") (.noProperty "java_type")
      pure (form [("maskType", mask.type.pub), ("unmasked", unmaskedName d.target.name)] r"
		if («maskType».NO_MASK.equals(mask)) {
			ρnew «unmasked»(value);
		} else if(«maskType».FULL_MASK.equals(mask)) {
			ρnull;
		} else {
			ρthis;
		}
")
    else pure (block r"
		// exact match OXM is always canonical
		ρthis;
")
  pure (d.putFor p r"
	public «type» getCanonical() {
"
    ++ body ++ block r"
	}
")

def interfaceParts : Table String String :=
  [("OFMessage", block r#"
	
	/**
	 * Compares the two messages for equality, ignoring the XID field.
	 *
	πobj the other message to compare
	 * @ρtrue if the messages are equal, ignoring the XID; false otherwise
	 */
	boolean equalsIgnoreXid(Object obj);

	/**
	 * Computes the hashcode of the message, ignoring the XID field.
	 * This can be useful in hashing OFMessages where an OFMessage
	 * is "the same as" another OFMessage if all fields are equal
	 * except for possibly the XIDs, which may or may not be equal.
	 *
	 * The obvious problem is that existing hash data structure 
	 * implementations will use OFMessage's hashCode() function instead.
	 * In order to use the functionality of hashCodeIgnoreXid(), one 
	 * must wrap the OFMessage within a user-defined class, where this 
	 * user-defined class is used as the key within a hash data structure, 
	 * e.g. HashMap. The user-defined class' overrideen hashCode() 
	 * function must explicitly invoke hashCodeIgnoreXid() when computing 
	 * the hash of the OFMessage member instead of computing it using 
	 * OFMessage's hashCode().
	 *
	 * @ρthe hashcode of the message, ignoring the XID
	 */
	int hashCodeIgnoreXid();
"#),
   ("OFPortDesc", "    // Additional methods\n\n" ++ portUpNote ++ "    boolean isEnabled();\n\n"
    ++ generationNote "ZERO" ++ block r"
	 public U64 getBsnGenerationId();
")]

end FlowBindings.ObjectModel.Source.Handwritten
